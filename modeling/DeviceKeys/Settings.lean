import DeviceKeys.Program
import DeviceKeys.Text.Blank
import DeviceKeys.Text.Lowercase

/-!
# Settings

Which region holds the secret, whether an override takes its place, the salt of every key, and the
path of the device. Settings are made either of the fields of a record, each of which can be
refused (`ofFields`), or of the environment, which cannot fail (`load`): there, an argument that was
given wins over a variable, even when it is empty or false.
-/

set_option autoImplicit false

namespace DeviceKeys

/-! ## The environment -/

/-- The three variables that are looked at; each can be unset, which is not the same as empty. -/
structure Environment where
  override : Option String
  customer : Option String
  salt : Option String
  deriving DecidableEq, Repr

namespace Environment

def overrideName : String := "FAKE_RPI_DERIVE_KEY_SECRET"

def customerName : String := "RPI_DERIVE_KEY_CUSTOMER_OTP"

def saltName : String := "RPI_DERIVE_KEY_SALT"

def unset : Environment := ⟨none, none, none⟩

/-- Picks the three variables out of a list of values by name; of two under one name the first
counts. -/
def ofVariables (values : List (String × String)) : Environment where
  override := values.lookup overrideName
  customer := values.lookup customerName
  salt := values.lookup saltName

def truthyWords : List String := ["1", "true", "yes", "on"]

/-- Whether a variable switches something on: without the blanks at its ends, and with every capital
made small, it is one of four words. -/
def isTruthy (text : String) : Bool :=
  truthyWords.contains (String.ofList (Text.lower (Text.strip text.toList)))

end Environment

/-! ## Settings -/

structure Settings where
  customerRegion : Bool
  /-- The text of the override, which may be empty. -/
  override : Option String
  salt : Option Bytes
  path : String
  deriving DecidableEq, Repr

namespace Settings

def standard : Settings := ⟨false, none, none, Mailbox.standardPath⟩

/-- The region that a medium of the device would use. -/
def region (settings : Settings) : Region :=
  if settings.customerRegion then .customer else .privateKey

def hasOverride (settings : Settings) : Bool := settings.override.isSome

/-- The bytes of the override. -/
def overrideBytes (settings : Settings) : Except Error Bytes :=
  match settings.override with
  | some text => .ok (Bytes.ofText text)
  | none => .error .noOverride

/-- What is shown of an override: nothing but whether it is empty. -/
def overrideShown (settings : Settings) : Option String :=
  settings.override.map fun text => if text.isEmpty then "" else "**********"

/-- Reads all four fields, each with its standard value where it is absent, and reports every field
that is refused, in this order. Other fields are let through. -/
def ofFields (fields : Fields) : Except Error Settings :=
  let customerRegion := fields.read "use_customer_otp" (.ok false) FieldValue.flag
  let override := fields.read "fake_secret" (.ok none) FieldValue.optionalText
  let salt := fields.read "salt" (.ok none) FieldValue.optionalBytes
  let path := fields.read "vcio_path" (.ok Mailbox.standardPath) FieldValue.nonemptyText
  match customerRegion, override, salt, path with
  | .ok customerRegion, .ok override, .ok salt, .ok path =>
    .ok { customerRegion, override, salt, path }
  | _, _, _, _ =>
    .error (.fields (Fields.refusal customerRegion ++ Fields.refusal override
      ++ Fields.refusal salt ++ Fields.refusal path))

/-- The settings that the environment describes, under the arguments that were given. -/
def ofEnvironment (env : Environment) (customerRegion : Option Bool) (salt : Option String) :
    Settings where
  customerRegion := customerRegion.getD ((env.customer.map Environment.isTruthy).getD false)
  override := env.override
  salt := (salt.or env.salt).map Bytes.ofText
  path := Mailbox.standardPath

/-- Reads the environment, with a warning when it brings an override; the warning names the
variable and not its value. -/
def load (env : Environment) (customerRegion : Option Bool) (salt : Option String) :
    Program Settings := do
  if env.override.isSome then
    Program.log .warning
      s!"{Environment.overrideName} is set, using a fake device secret instead of OTP memory"
  return ofEnvironment env customerRegion salt

end Settings

end DeviceKeys
