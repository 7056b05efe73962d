import DeviceKeys.CommandLine.Arguments
import DeviceKeys.Keeper
import DeviceKeys.Machine

/-!
# Executing a command

Every command makes one keeper from the environment and the options, works with it, closes it, and
only then speaks: a report or a key on the standard output, everything else on the standard error.
So the lines of the log, which are written while the keeper works, always come before the closing
message of the command.

`status` is for diagnostics and never fails; where a report cannot be had, it says why. All other
commands turn an error into its exit status.
-/

set_option autoImplicit false

namespace DeviceKeys.CommandLine

def programVersion : String := "0.2.0"

/-! ## Outcomes -/

/-- What a command ends with; `message` is what it writes on the standard error at its end. -/
structure Outcome where
  exitStatus : Nat
  stdout : String
  message : String
  /-- Whether the arguments were refused, in which case help of another kind is due. -/
  usageError : Bool
  deriving DecidableEq, Repr

namespace Outcome

def success (stdout : String) : Outcome := ⟨0, stdout, "", false⟩

def usage : Outcome := ⟨2, "", "", true⟩

def failure (err : Error) : Outcome := ⟨err.exitStatus, "", s!"Error: {err.message}\n", false⟩

end Outcome

/-! ## Text of a report -/

def flagText (flag : Bool) : String := if flag then "true" else "false"

def reportLines (state : RegionState) (report : Report) : String :=
  s!"Status: {state.name}\n"
    ++ s!"Has Customer OTP: {flagText report.customerProgrammed}\n"
    ++ s!"Has Private Key: {flagText report.privateKeyProgrammed}\n"

/-- The members of a JSON object one per line; both names and values come as they are written. -/
def jsonObject (members : List (String × String)) : String :=
  let lines := members.map fun (name, value) => s!"  \"{name}\": {value}"
  "\x7b\n" ++ String.intercalate ",\n" lines ++ "\n\x7d"

def jsonReport (place : String) (state : RegionState) (report : Report) : String :=
  jsonObject [("region", s!"\"{place}\""), ("status", s!"\"{state.name}\""),
    ("is_raspberry_pi", flagText report.mailboxPresent),
    ("has_private_key", flagText report.privateKeyProgrammed),
    ("has_customer_otp", flagText report.customerProgrammed),
    ("private_key", s!"\"{report.privateKey.name}\""),
    ("customer_otp", s!"\"{report.customer.name}\"")]

/-! ## Commands -/

/-- Makes a keeper, works with it, and closes it whatever came of that. -/
def withKeeper {α : Type} (settings : Settings) (body : Keeper → Attempt Error α) :
    Attempt Error α := do
  let keeper ← Keeper.make settings none
  Program.ensuring (body keeper) keeper.close

/-- Prints what a keeper gives, or the error. -/
def printing (settings : Settings) (body : Keeper → Attempt Error String) : Program Outcome := do
  match ← (withKeeper settings body).run with
  | .ok text => return .success s!"{text}\n"
  | .error err => return .failure err

def executeStatus (settings : Settings) (json : Bool) : Program Outcome := do
  let gather (keeper : Keeper) : Attempt Error (String × RegionState × Report) := do
    let state ← keeper.state
    let report ← keeper.report
    return (keeper.placeName, state, report)
  match ← (withKeeper settings gather).run with
  | .ok (place, state, report) =>
    if json then return .success s!"{jsonReport place state report}\n"
    return .success (s!"Region: {place}\n" ++ reportLines state report)
  | .error err => return ⟨0, "", s!"Status unavailable: {err.message}\n", false⟩

/-- The report comes after the region was provided with a secret, and an error of the report takes
the place of the outcome. -/
def executeInit (settings : Settings) : Program Outcome := do
  let work (keeper : Keeper) : Attempt Error (ProvisionOutcome × RegionState × Report) := do
    let outcome ← keeper.provide
    let state ← keeper.state
    let report ← keeper.report
    return (outcome, state, report)
  match ← (withKeeper settings work).run with
  | .ok (outcome, state, report) =>
    let message := match outcome with
      | .programmed => "Device secret initialized.\n"
      | .alreadyProgrammed => "Device secret already initialized.\n"
    return ⟨0, reportLines state report, message, false⟩
  | .error err => return .failure err

def executeCheck (settings : Settings) : Program Outcome := do
  match ← (withKeeper settings Keeper.isProvided).run with
  | .ok true => return ⟨0, "", "Device secret is initialized.\n", false⟩
  | .ok false => return ⟨1, "", "Device secret has not been initialized.\n", false⟩
  | .error err => return .failure err

def execute (settings : Settings) : Command → Program Outcome
  | .version => return .success s!"rpi-derive-key version {programVersion}\n"
  | .status json => executeStatus settings json
  | .init => executeInit settings
  | .check => executeCheck settings
  | .hex size info => printing settings fun keeper => keeper.hexKey (.text info) size
  | .uuid info => printing settings fun keeper => Uuid.text <$> keeper.uuid (.text info)

/-- Executes a command line. Its second stage comes after the environment, so that a warning about
the environment precedes the refusal of an argument. -/
def run (args : List String) (env : Environment) : Program Outcome :=
  match Invocation.parse? args with
  | none => return .usage
  | some invocation => do
    let options := invocation.options
    let settings ← Settings.load env (if options.customer then some true else none) options.salt
    match Command.parse? invocation.command invocation.arguments with
    | none => return .usage
    | some command => execute settings command

/-! ## One process -/

/-- What is seen of a process from outside. -/
structure Transcript where
  exitStatus : Nat
  stdout : String
  stderr : String
  usageError : Bool
  events : List Event
  deriving DecidableEq, Repr

/-- A line of the log as it is written: without `--verbose` only a warning, and only its text. -/
def logLine (verbose : Bool) (time : String) (record : Record) : String :=
  if verbose then s!"{time} rpi_derive_key {record.level.name} {record.text}\n"
  else match record.level with
    | .warning => s!"{record.text}\n"
    | .debug | .info => ""

/-- Whether every line of the log is written; a command line that cannot be read logs nothing. -/
def isVerbose (args : List String) : Bool :=
  ((Invocation.parse? args).map (·.options.verbose)).getD false

/-- Runs a command line as a process of its own, which starts without claims and without a log.
`time` stands in front of the lines of a verbose log. -/
def invoke (time : String) (args : List String) (env : Environment) (m : Machine) :
    Transcript × Machine :=
  let (outcome, m) := (run args env).run { m.unrecorded with claims := .none }
  let lines := m.log.map (logLine (isVerbose args) time)
  (⟨outcome.exitStatus, outcome.stdout, String.join lines ++ outcome.message, outcome.usageError,
    m.events⟩, m)

end DeviceKeys.CommandLine
