import DeviceKeys.Error

/-!
# Reports

What the diagnostics say about both regions of a device. A report that the library makes has its
flags follow from its states (`ofStates`); one that is read from the fields of a record is
taken as it stands, since whoever wrote it down may have looked at the device at two moments.
-/

set_option autoImplicit false

namespace DeviceKeys

structure Report where
  mailboxPresent : Bool
  privateKeyProgrammed : Bool
  customerProgrammed : Bool
  privateKey : RegionState
  customer : RegionState
  deriving DecidableEq, Repr

namespace Report

def ofStates (mailboxPresent : Bool) (privateKey customer : RegionState) : Report where
  mailboxPresent := mailboxPresent
  privateKeyProgrammed := privateKey == .programmed
  customerProgrammed := customer == .programmed
  privateKey := privateKey
  customer := customer

/-- A state is written as its exact name. -/
def readState : FieldValue → Except FieldProblem RegionState
  | .text name =>
    match RegionState.ofName? name with
    | some state => .ok state
    | none => .error .unknownState
  | _ => .error .unknownState

/-- Reads all five fields and reports every one that is absent or refused, in this order. -/
def ofFields (fields : Fields) : Except Error Report :=
  let mailboxPresent := fields.read "is_raspberry_pi" (.error .missing) FieldValue.flag
  let privateKeyProgrammed := fields.read "has_private_key" (.error .missing) FieldValue.flag
  let customerProgrammed := fields.read "has_customer_otp" (.error .missing) FieldValue.flag
  let privateKey := fields.read "private_key" (.error .missing) readState
  let customer := fields.read "customer_otp" (.error .missing) readState
  match mailboxPresent, privateKeyProgrammed, customerProgrammed, privateKey, customer with
  | .ok mailboxPresent, .ok privateKeyProgrammed, .ok customerProgrammed, .ok privateKey,
    .ok customer =>
    .ok { mailboxPresent, privateKeyProgrammed, customerProgrammed, privateKey, customer }
  | _, _, _, _, _ =>
    .error (.fields (Fields.refusal mailboxPresent ++ Fields.refusal privateKeyProgrammed
      ++ Fields.refusal customerProgrammed ++ Fields.refusal privateKey
      ++ Fields.refusal customer))

end Report

end DeviceKeys
