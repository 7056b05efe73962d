import DeviceKeys.Settings
import DeviceKeys.Report

/-!
# Answers

What a single step of a session gives back when it does not fail. A step that has nothing to say
still answers, with `nothing`.
-/

set_option autoImplicit false

namespace DeviceKeys

inductive Answer where
  | nothing
  | flag (value : Bool)
  | text (value : String)
  | bytes (value : Bytes)
  | state (value : RegionState)
  | outcome (value : ProvisionOutcome)
  | region (value : Option Region)
  | settings (value : Settings)
  | report (value : Report)
  deriving DecidableEq, Repr

end DeviceKeys
