import DeviceKeys.Text.Numeral

/-!
# Command lines

A command line is read in two stages. The first one reads the options that stand in front of the
command, and the name of the command; the second one reads what belongs to the command, and takes
place only after the environment was looked at. Every refusal is the same to the caller, so both
stages give an `Option`.

Both stages share one scanner. It knows two forms of an option, a long name and a single letter;
letters can be joined, and the value of a long name follows an equals sign or is the next argument,
whatever that is. A `--` ends the options once. The stages differ in one point: in front of the
command, the first argument that is no option ends the options too.
-/

set_option autoImplicit false

namespace DeviceKeys.CommandLine

/-! ## The scanner -/

/-- An option: its name after `--`, its letter after `-` if it has one, and whether it has a
value. -/
structure OptionForm where
  name : String
  letter : Option Char
  takesValue : Bool
  deriving DecidableEq, Repr

/-- An option as it was given, with its value if it takes one. -/
abbrev Setting := String × Option String

/-- How a single argument reads before the arguments after it are known. -/
inductive Reading where
  | positional
  | settings (given : List Setting)
  /-- An option whose value is still to come. -/
  | awaiting (name : String)
  | unknown
  deriving DecidableEq, Repr

/-- An argument after `--`: an option by its full name, and a value where one is taken. -/
def readLong (forms : List OptionForm) (cs : List Char) : Reading :=
  let name := String.ofList (cs.takeWhile (· != '='))
  match forms.find? (·.name == name), cs.dropWhile (· != '=') with
  | some form, _ :: value =>
    if form.takesValue then .settings [(form.name, some (String.ofList value))] else .unknown
  | some form, [] => if form.takesValue then .awaiting form.name else .settings [(form.name, none)]
  | none, _ => .unknown

/-- An argument after a single `-`: letters, each of which is an option without a value. -/
def readLetters (forms : List OptionForm) (cs : List Char) : Reading :=
  match cs.mapM fun c => forms.find? fun form => form.letter == some c && !form.takesValue with
  | some found => .settings (found.map fun form => (form.name, none))
  | none => .unknown

/-- A lone `-`, like the empty text, is no option. -/
def read (forms : List OptionForm) (arg : String) : Reading :=
  match arg.toList with
  | '-' :: '-' :: cs => readLong forms cs
  | '-' :: c :: cs => readLetters forms (c :: cs)
  | _ => .positional

/-- What a scan finds: the options in the order in which they were given, and the rest. -/
structure Scanned where
  settings : List Setting
  rest : List String
  deriving DecidableEq, Repr

def Scanned.addSettings (given : List Setting) (s : Scanned) : Scanned :=
  { s with settings := given ++ s.settings }

/-- Reads arguments from left to right; `mixed` lets options follow other arguments. -/
def scan (forms : List OptionForm) (mixed : Bool) : List String → Option Scanned
  | [] => some ⟨[], []⟩
  | arg :: args =>
    if arg = "--" then some ⟨[], args⟩
    else match read forms arg with
      | .positional =>
        if mixed then (scan forms mixed args).map fun s => { s with rest := arg :: s.rest }
        else some ⟨[], arg :: args⟩
      | .settings given => (scan forms mixed args).map (·.addSettings given)
      | .awaiting name =>
        match args with
        | [] => none
        | value :: args => (scan forms mixed args).map (·.addSettings [(name, some value)])
      | .unknown => none

/-! ## In front of the command -/

structure GlobalOptions where
  customer : Bool
  salt : Option String
  verbose : Bool
  deriving DecidableEq, Repr

def globalForms : List OptionForm :=
  [⟨"customer-otp", none, false⟩, ⟨"salt", none, true⟩, ⟨"verbose", some 'v', false⟩]

/-- Whether an option was given at all. -/
def isGiven (name : String) (settings : List Setting) : Bool :=
  settings.any (·.1 == name)

/-- The last value that an option was given. -/
def lastValue? (name : String) (settings : List Setting) : Option String :=
  (settings.reverse.find? (·.1 == name)).bind (·.2)

def GlobalOptions.ofSettings (settings : List Setting) : GlobalOptions where
  customer := isGiven "customer-otp" settings
  salt := lastValue? "salt" settings
  verbose := isGiven "verbose" settings

inductive CommandName where
  | version
  | status
  | init
  | check
  | hex
  | uuid
  deriving DecidableEq, Repr

namespace CommandName

def text : CommandName → String
  | version => "version"
  | status => "status"
  | init => "init"
  | check => "check"
  | hex => "hex"
  | uuid => "uuid"

def all : List CommandName := [version, status, init, check, hex, uuid]

def ofText? (name : String) : Option CommandName := all.find? (·.text == name)

end CommandName

/-- A command line whose command is not read yet. -/
structure Invocation where
  options : GlobalOptions
  command : CommandName
  arguments : List String
  deriving DecidableEq, Repr

/-- The first stage. -/
def Invocation.parse? (args : List String) : Option Invocation := do
  let scanned ← scan globalForms false args
  match scanned.rest with
  | [] => none
  | name :: arguments =>
    return ⟨.ofSettings scanned.settings, ← CommandName.ofText? name, arguments⟩

/-! ## The command -/

inductive Command where
  | version
  | status (json : Bool)
  | init
  | check
  | hex (size : Int) (info : String)
  | uuid (info : String)
  deriving DecidableEq, Repr

/-- The options of a command. -/
def commandForms : CommandName → List OptionForm
  | .status => [⟨"json", none, false⟩]
  | _ => []

/-- The second stage: neither an argument too few nor one too many is let through. -/
def Command.parse? (name : CommandName) (arguments : List String) : Option Command := do
  let scanned ← scan (commandForms name) true arguments
  match name, scanned.rest with
  | .version, [] => some .version
  | .status, [] => some (.status (isGiven "json" scanned.settings))
  | .init, [] => some .init
  | .check, [] => some .check
  | .hex, [size, info] => (Text.integer? size).map (.hex · info)
  | .uuid, [info] => some (.uuid info)
  | _, _ => none

end DeviceKeys.CommandLine
