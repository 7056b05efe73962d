import DeviceKeys.CommandLine.Execution

/-!
# The command line program

Runs one command line with the environment of the process. The mailbox file is out of reach of
this program, so it works as on a computer that does not have it: every command runs under the
override, and without it reports that the region is not supported.
-/

set_option autoImplicit false

namespace DeviceKeys.CommandLine

/-- The variables of this process. -/
def readEnvironment : IO Environment := do
  return {
    override := ← IO.getEnv Environment.overrideName
    customer := ← IO.getEnv Environment.customerName
    salt := ← IO.getEnv Environment.saltName }

end DeviceKeys.CommandLine

open DeviceKeys in
def main (args : List String) : IO UInt32 := do
  let time ← IO.monoMsNow
  let (shown, _) :=
    CommandLine.invoke (toString time) args (← CommandLine.readEnvironment) (.start .absent [])
  IO.print shown.stdout
  IO.eprint shown.stderr
  if shown.usageError then
    IO.eprintln "Usage: rpi-derive-key [--customer-otp] [--salt TEXT] [--verbose] COMMAND [ARGS]"
  return UInt32.ofNat shown.exitStatus
