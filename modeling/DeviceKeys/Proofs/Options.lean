import DeviceKeys.CommandLine.Arguments

/-!
# Options in front of a command

The options that stand in front of a command can be given in several forms, any number of times and
in any order (`Use`). The first stage of reading finds what was given: whether the region of the
customer was asked for, the last salt, and whether the log is to be written. It neither misreads the
value of an option as an argument nor the name of the command as an option, and leaves everything
behind that name to the second stage.
-/

set_option autoImplicit false

namespace DeviceKeys.CommandLine

/-- A use of an option, in one of its forms. -/
inductive Use where
  | customer
  /-- The salt is the next argument. -/
  | salt (text : String)
  /-- The salt follows an equals sign. -/
  | joinedSalt (text : String)
  | verbose
  | verboseLetter
  deriving DecidableEq, Repr

namespace Use

/-- The arguments that a use consists of. -/
def args : Use → List String
  | customer => ["--customer-otp"]
  | salt text => ["--salt", text]
  | joinedSalt text => ["--salt=" ++ text]
  | verbose => ["--verbose"]
  | verboseLetter => ["-v"]

def setting : Use → Setting
  | customer => ("customer-otp", none)
  | salt text | joinedSalt text => ("salt", some text)
  | verbose | verboseLetter => ("verbose", none)

def salt? : Use → Option String
  | salt text | joinedSalt text => some text
  | customer | verbose | verboseLetter => none

/-- What several uses in a row ask for; of several salts the last one counts. -/
def options (uses : List Use) : GlobalOptions where
  customer := uses.contains customer
  salt := (uses.filterMap salt?).getLast?
  verbose := uses.contains verbose || uses.contains verboseLetter

variable (use : Use) (uses : List Use)

theorem read_joinedSalt (text : String) :
    read globalForms ("--salt=" ++ text) = .settings [("salt", some text)] := by
  have spelled : ("--salt=" ++ text).toList =
      '-' :: '-' :: ("salt".toList ++ '=' :: text.toList) := by
    rw [String.toList_append]
    rfl
  have given : readLong globalForms ("salt".toList ++ '=' :: text.toList) =
      .settings [("salt", some (String.ofList text.toList))] := rfl
  rw [String.ofList_toList] at given
  rw [read, spelled]
  exact given

/-- A use is read as what it is, whatever follows. -/
theorem scan_args (rest : List String) : scan globalForms false (use.args ++ rest) =
    (scan globalForms false rest).map (·.addSettings [use.setting]) := by
  cases use with
  | joinedSalt text =>
    have other : "--salt=" ++ text ≠ "--" := by
      intro same
      have longer := congrArg String.length same
      rw [String.length_append] at longer
      have seven : "--salt=".length = 7 := rfl
      have two : "--".length = 2 := rfl
      omega
    rw [args, List.singleton_append, scan, if_neg other, read_joinedSalt]
    rfl
  | _ => rfl

theorem scan_flatMap_args (rest : List String) :
    scan globalForms false (uses.flatMap args ++ rest) =
      (scan globalForms false rest).map (·.addSettings (uses.map setting)) := by
  induction uses with
  | nil => simp [Scanned.addSettings]
  | cons use uses ih =>
    rw [List.flatMap_cons, List.append_assoc, scan_args, ih]
    cases scan globalForms false rest <;> rfl

theorem lastValue?_salt :
    lastValue? "salt" (uses.map setting) = (uses.filterMap salt?).getLast? := by
  -- From the end of the list on, the first salt counts.
  have first : ∀ uses : List Use, ((uses.map setting).find? (·.1 == "salt")).bind (·.2) =
      (uses.filterMap salt?).head? := by
    intro uses
    induction uses with
    | nil => rfl
    | cons use rest ih => cases use <;> first | rfl | exact ih
  rw [lastValue?, ← List.map_reverse, first, List.filterMap_reverse, List.head?_reverse]

theorem isGiven_customer : isGiven "customer-otp" (uses.map setting) = uses.contains customer := by
  induction uses with
  | nil => rfl
  | cons use rest ih => cases use <;> first | rfl | exact ih

theorem isGiven_verbose : isGiven "verbose" (uses.map setting) =
    (uses.contains verbose || uses.contains verboseLetter) := by
  induction uses with
  | nil => rfl
  | cons use rest ih =>
    cases use with
    | verboseLetter => exact (Bool.or_true _).symm
    | verbose => rfl
    | _ => exact ih

theorem ofSettings_eq_options : GlobalOptions.ofSettings (uses.map setting) = options uses := by
  rw [GlobalOptions.ofSettings, options, lastValue?_salt, isGiven_customer, isGiven_verbose]

end Use

theorem CommandName.ofText?_text (name : CommandName) : ofText? name.text = some name := by
  cases name <;> decide

/-- The name of a command ends the options. -/
theorem scan_name (name : CommandName) (arguments : List String) :
    scan globalForms false (name.text :: arguments) = some ⟨[], name.text :: arguments⟩ := by
  cases name <;> rfl

/-- A command line is read as the options it uses, its command, and the arguments of that. -/
theorem parse?_args (uses : List Use) (name : CommandName) (arguments : List String) :
    Invocation.parse? (uses.flatMap Use.args ++ name.text :: arguments) =
      some ⟨Use.options uses, name, arguments⟩ := by
  rw [Invocation.parse?, Use.scan_flatMap_args, scan_name, Option.map_some]
  simp [Scanned.addSettings, CommandName.ofText?_text, Use.ofSettings_eq_options]

end DeviceKeys.CommandLine
