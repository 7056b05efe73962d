import DeviceKeys.Key
import DeviceKeys.Medium
import DeviceKeys.Report
import DeviceKeys.Settings

/-!
# Keepers

A keeper joins settings with the one medium that it keeps for its life, and is the only place where
a secret meets the derivation of keys. It provides a region with a secret, once; it tells the
region's state, derives keys from its secret, and reports on the whole device.

Every operation that needs the secret looks at the state first and reads second, in two visits to
the device. So the second visit can see another device than the first, and a secret of zeros is
refused there once more.
-/

set_option autoImplicit false

namespace DeviceKeys

/-- The medium that the settings ask for; an override wins over the choice of a region. -/
def Medium.ofSettings (settings : Settings) : Attempt Error Medium :=
  match settings.override with
  | some text => return .override (Bytes.ofText text)
  | none => Medium.claim settings.region settings.path

structure Keeper where
  settings : Settings
  medium : Medium
  deriving DecidableEq, Repr

namespace Keeper

/-- Takes the given medium, or makes the one that the settings ask for. -/
def make (settings : Settings) (medium : Option Medium) : Attempt Error Keeper := do
  let medium ← match medium with
    | some medium => pure medium
    | none => Medium.ofSettings settings
  Program.log .debug s!"Secret store using {medium.text}"
  return ⟨settings, medium⟩

def close (keeper : Keeper) : Program Unit := keeper.medium.close

def placeName (keeper : Keeper) : String := keeper.medium.placeName

def text (keeper : Keeper) : String := s!"<SecretStore {keeper.placeName}>"

/-! ## The secret -/

def state (keeper : Keeper) : Attempt Error RegionState := keeper.medium.inspect

def isProvided (keeper : Keeper) : Attempt Error Bool := do
  return (← keeper.state) == .programmed

/-- Programs a fresh random secret where the region reads as blank. A region that another process
programs in the meantime counts as programmed before. -/
def provideFresh (keeper : Keeper) : Attempt Error ProvisionOutcome := do
  let value ← Program.perform .draw
  match ← Program.outcome (keeper.medium.program value.toList) with
  | .ok () =>
    Program.log .info s!"Device secret ({keeper.placeName}) initialized"
    return .programmed
  | .error (.alreadyProgrammed _) =>
    Program.log .info s!"Device secret ({keeper.placeName}) was initialized concurrently"
    return .alreadyProgrammed
  | .error (.mediumMissing _) => throw (.regionUnavailable keeper.placeName)
  | .error err => throw err

/-- Provides the region with a secret if it has none. -/
def provide (keeper : Keeper) : Attempt Error ProvisionOutcome := do
  let state ← keeper.state.adapt fun
    | .readingFailed cause => .programmingFailed (.inspecting keeper.placeName cause)
    | err => err
  match state with
  | .programmed =>
    Program.log .info s!"Device secret ({keeper.placeName}) already initialized"
    return .alreadyProgrammed
  | .unavailable => throw (.regionUnavailable keeper.placeName)
  | .blank => keeper.provideFresh

/-- The secret, for the derivation of keys alone. -/
def secret (keeper : Keeper) : Attempt Error RootSecret := do
  match ← keeper.state with
  | .blank => throw (.regionBlank keeper.placeName)
  | .unavailable => throw (.regionUnavailable keeper.placeName)
  | .programmed =>
    let secret ← keeper.medium.fetch
    if secret.isBlank then throw (.readingFailed (.empty keeper.placeName))
    return secret

/-! ## Keys -/

/-- A key of the given length. The secret is looked for before the length is looked at. -/
def key (keeper : Keeper) (label : Label) (length : Int) : Attempt Error Bytes := do
  let secret ← keeper.secret
  let key ← Program.ofExcept (Key.ofLength secret label length keeper.settings.salt)
  Program.log .debug s!"Derived {length} byte key"
  return key

def hexKey (keeper : Keeper) (label : Label) (length : Int) : Attempt Error String := do
  let secret ← keeper.secret
  Program.ofExcept (Key.hexOfLength secret label length keeper.settings.salt)

def uuid (keeper : Keeper) (label : Label) : Attempt Error Uuid := do
  let secret ← keeper.secret
  return Key.uuid secret label keeper.settings.salt

/-! ## Diagnostics -/

/-- The state of a region: through the keeper's own medium if it is that region's, and through one
that lives no longer than the look if not. -/
def stateOf (keeper : Keeper) (region : Region) : Attempt Error RegionState :=
  if keeper.medium.region? = some region then keeper.medium.inspect
  else do
    let medium ← Medium.claim region keeper.settings.path
    Program.ensuring medium.inspect medium.close

/-- Reports on both regions of the device, the private-key region first. -/
def report (keeper : Keeper) : Attempt Error Report := do
  let privateKey ← keeper.stateOf .privateKey
  let customer ← keeper.stateOf .customer
  let mailboxPresent ← Handle.mailboxPresent keeper.settings.path
  return .ofStates mailboxPresent privateKey customer

end Keeper

end DeviceKeys
