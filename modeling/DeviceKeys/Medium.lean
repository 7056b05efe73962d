import DeviceKeys.Handle
import DeviceKeys.RootSecret

/-!
# Media

A medium is where a secret is kept. There are two, and no more: a region of the device, which is
claimed for as long as the medium lives, and an override for development, whose secret is the
digest of a text and which never touches the device.

Programming a region cannot be undone. So `burn` reads the region once more under the lock, writes
only where it has just seen nothing, writes once, and reads back what it wrote. Every failure on the
way is told apart by the step it happened at; the only one that can replace a result already
reached is a lock or a file that the system does not take back.
-/

set_option autoImplicit false

namespace DeviceKeys

inductive Medium where
  | otp (region : Region) (path : String) (claim : ClaimId)
  | override (seed : Bytes)
  deriving DecidableEq, Repr

namespace Medium

/-! ## Claiming and letting go -/

/-- A region as a medium, unless another medium of this process has it. -/
def claim (region : Region) (path : String) : Attempt Error Medium := do
  match ← Program.perform (.claim region) with
  | some id => return .otp region path id
  | none => throw (.regionClaimed region)

/-- Gives the region back. A medium goes on working after that. -/
def close : Medium → Program Unit
  | otp _ _ id => Program.perform (.release id)
  | override _ => return ()

def region? : Medium → Option Region
  | otp region _ _ => some region
  | override _ => none

/-- The claim that a medium was made with, held or not. -/
def claim? : Medium → Option ClaimId
  | otp _ _ id => some id
  | override _ => none

/-- The name of the place in messages and reports. -/
def placeName (medium : Medium) : String :=
  (medium.region?.map Region.name).getD "fake"

/-- How a medium shows itself; the seed of an override stays hidden. -/
def text : Medium → String
  | otp .privateKey path _ => s!"<PrivateOTPBackend {path}>"
  | otp .customer path _ => s!"<CustomerOTPBackend {path}>"
  | override _ => "<FakeBackend>"

/-! ## Looking and reading -/

/-- What a value read from a region says about it: any bit set means that it was programmed. -/
def stateOf (value : Block) : RegionState :=
  if value.isBlank then .blank else .programmed

/-- Only two failures say that the region is not offered: the file does not exist, or the firmware
rejects the read. Every other one leaves the state unknown. -/
def inspectRegion (region : Region) (path : String) : Attempt Error RegionState := do
  match ← Program.outcome (Handle.visit region path) with
  | .ok value =>
    let state := stateOf value
    Program.log .debug s!"{region.name} OTP region is {state.name}"
    return state
  | .error err =>
    if err.isMissingFile then
      Program.log .debug s!"{path} does not exist, not a Raspberry Pi"
      return .unavailable
    match err with
    | .rejected _ _ =>
      Program.log .debug s!"Firmware rejected {region.name} OTP read: {err.message}"
      return .unavailable
    | .system _ _ => throw (.readingFailed (.call region err))

def inspect : Medium → Attempt Error RegionState
  | otp region path _ => inspectRegion region path
  | override _ => return .programmed

/-- The secret, whatever it is; a region that was never programmed gives zeros. -/
def fetch : Medium → Attempt Error RootSecret
  | otp region path _ => do
    let value ← (Handle.visit region path).adapt fun err => .readingFailed (.call region err)
    return ⟨value⟩
  | override seed => return .ofSeed seed

/-! ## Programming -/

/-- Programs a region that reads as blank, and makes sure that it holds the value. -/
def burn (region : Region) (value : Block) : Attempt Error Unit := do
  let current ← (Handle.read region).adapt fun
    | .rejected _ _ => .mediumMissing (.refused region)
    | err => .programmingFailed (.reading region err)
  if !current.isBlank then throw (.alreadyProgrammed region)
  Program.log .info s!"Programming the {region.name} OTP region"
  let written ← (do
    let _ ← Handle.write region value
    Handle.read region : Attempt CallError Block).adapt fun err =>
      .programmingFailed (.programming region err)
  if written ≠ value then throw (.programmingFailed (.verifying region))

/-- Opens the device, takes the lock, burns the value, and gives back both. -/
def programRegion (region : Region) (path : String) (value : Block) : Attempt Error Unit := do
  let handle ← (Handle.openAt path).adapt fun err =>
    if err.isMissingFile then .mediumMissing (.opening path err)
    else .programmingFailed (.opening path err)
  let refused := fun err => Error.programmingFailed (.locking path err)
  handle.closing refused (Handle.locked refused (burn region value))
  Program.log .info s!"The {region.name} OTP region has been programmed"

/-- Keeps a secret for good. Its size is looked at before the device is. -/
def program : Medium → Bytes → Attempt Error Unit
  | otp region path _, bytes =>
    match Block.ofBytes? bytes with
    | some value => programRegion region path value
    | none => throw (.secretSize bytes.length)
  | override _, _ => Program.log .debug "Fake backend ignores initialization"

end Medium

end DeviceKeys
