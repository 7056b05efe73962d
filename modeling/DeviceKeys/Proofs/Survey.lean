import DeviceKeys.Proofs.Agreement
import DeviceKeys.Proofs.InitReport
import DeviceKeys.Proofs.Observation

/-!
# What the diagnostics commands tell

`status` looks three times, once at the region of its keeper and once at each region of the device,
and prints a report if nothing went wrong in any of the looks; otherwise it says what did, and ends
with the same exit status. `check` looks once and tells by its exit status what it saw. Neither does
anything but look.

The delicate part is the region that is not the keeper's own. The report makes a medium for it,
which could fail in a way of its own; but a process claims nothing except what its keeper needs, so
the report sees what three bare looks in a row would see (`Keeper.run_review`).
-/

set_option autoImplicit false

namespace DeviceKeys

/-! ## Files stay where they are -/

theorem Device.hasFile_congr {d d' : Device} (same : d'.fixture = d.fixture) (path : String) :
    d'.hasFile path = d.hasFile path := by
  obtain ⟨present, rest⟩ := Prod.mk.inj same
  rw [Device.hasFile, Device.hasFile, present, (Prod.mk.inj rest).1]

theorem Program.fixture_run {α : Type} (program : Program α) (m : Machine) :
    (program.run m).2.device.fixture = m.device.fixture :=
  (program.linked_calls m).fixture

/-! ## Bare looks -/

/-- A look at each region of the device. -/
def Medium.inspectBoth (path : String) : Attempt Error (RegionState × RegionState) := do
  let privateKey ← inspectRegion .privateKey path
  let customer ← inspectRegion .customer path
  return (privateKey, customer)

namespace Keeper

variable {keeper : Keeper} {m m' : Machine}

/-- A look at the keeper's own region, and then one at each region. -/
def survey (keeper : Keeper) : Attempt Error (RegionState × RegionState × RegionState) := do
  let own ← keeper.state
  let both ← Medium.inspectBoth keeper.settings.path
  return (own, both)

/-- Whether the keeper's own region, if it has one, is behind the path of its settings. -/
def AtHome (keeper : Keeper) : Prop :=
  ∀ region, keeper.medium.region? = some region →
    keeper.medium.inspect = Medium.inspectRegion region keeper.settings.path

/-- Through which medium a region is looked at makes no difference. -/
theorem stateOf_seen (home : keeper.AtHome) (roams : keeper.Roams m.claims)
    (same : m'.device = m.device) (region : Region) :
    let seen := (Medium.inspectRegion region keeper.settings.path).run.run m'
    ((keeper.stateOf region).run.run m).1 = seen.1 ∧
      ((keeper.stateOf region).run.run m).2.device = seen.2.device := by
  have looks := Medium.asks_inspectRegion region keeper.settings.path
  by_cases own : keeper.medium.region? = some region
  · rw [stateOf, if_pos own, home region own]
    exact looks.looks_congr same.symm
  · rw [run_stateOf own (roams region own)]
    have claimed : ({ m with claims := (m.claims.claim region).2 } : Machine).device = m'.device :=
      same.symm
    exact looks.looks_congr claimed

/-- A report is what two looks see, together with whether the file is there. -/
theorem run_report (home : keeper.AtHome) (roams : keeper.Roams m.claims) :
    (keeper.report.run.run m).1 =
      ((Medium.inspectBoth keeper.settings.path).run.run m).1.map fun (privateKey, customer) =>
        .ofStates (m.device.hasFile keeper.settings.path) privateKey customer := by
  obtain ⟨first, left⟩ := stateOf_seen home roams rfl .privateKey
  -- The first look leaves other claims than a bare one, but the same device for the second.
  obtain ⟨second, -⟩ := stateOf_seen home (roams.stateOf .privateKey) left.symm .customer
  have located : ((keeper.stateOf .customer).run.run
      ((keeper.stateOf .privateKey).run.run m).2).2.device.hasFile keeper.settings.path =
        m.device.hasFile keeper.settings.path := by
    refine Device.hasFile_congr ?_ _
    rw [Program.fixture_run, Program.fixture_run]
  rw [report, Medium.inspectBoth, Program.run_attempt_bind, Program.run_attempt_bind, first]
  cases (Medium.inspectRegion .privateKey keeper.settings.path).run.run m |>.1 with
  | error err => rfl
  | ok privateKey =>
    simp only [Program.run_attempt_bind, second]
    cases (Medium.inspectRegion .customer keeper.settings.path).run.run
        ((Medium.inspectRegion .privateKey keeper.settings.path).run.run m).2 |>.1 with
    | error err => rfl
    | ok customer =>
      rw [← located]
      rfl

/-- A review is what three looks see. -/
theorem run_review (home : keeper.AtHome) (roams : keeper.Roams m.claims) :
    (keeper.review.run.run m).1 = (keeper.survey.run.run m).1.map fun (own, privateKey, customer) =>
      (own, .ofStates (m.device.hasFile keeper.settings.path) privateKey customer) := by
  rw [← claims_state keeper m] at roams
  have reported := run_report home roams
  rw [Device.hasFile_congr (Program.fixture_run keeper.state.run m)] at reported
  rw [review, survey, Program.run_attempt_bind, Program.run_attempt_bind]
  cases (keeper.state.run.run m).1 with
  | error err => rfl
  | ok own =>
    simp only [Program.run_attempt_bind, reported]
    cases ((Medium.inspectBoth keeper.settings.path).run.run (keeper.state.run.run m).2).1 <;> rfl

/-- Of the errors of a survey only unreadable regions are left, since its regions are free. -/
theorem survey_eq_error {err : Error} (home : keeper.AtHome) (roams : keeper.Roams m.claims)
    (h : (keeper.survey.run.run m).1 = .error err) : ∃ cause, err = .readingFailed cause := by
  have reviewed := run_review home roams
  rw [h] at reviewed
  exact review_eq_error roams reviewed

end Keeper

/-! ## The commands in terms of their keeper -/

namespace CommandLine

/-- What `status` prints. -/
def statusText (json : Bool) (place : String) (state : RegionState) (report : Report) : String :=
  if json then s!"{jsonReport place state report}\n"
  else s!"Region: {place}\n" ++ reportLines state report

/-- What `status` ends with, given what the review came to. -/
def statusOutcome (json : Bool) (place : String) : Except Error (RegionState × Report) → Outcome
  | .ok (state, report) => .success (statusText json place state report)
  | .error err => ⟨0, "", s!"Status unavailable: {err.message}\n", false⟩

/-- What `check` ends with, given what the look came to. -/
def checkOutcome : Except Error RegionState → Outcome
  | .ok .programmed => ⟨0, "", "Device secret is initialized.\n", false⟩
  | .ok .blank | .ok .unavailable => ⟨1, "", "Device secret has not been initialized.\n", false⟩
  | .error err => .failure err

section

variable {settings : Settings} {keeper : Keeper} {m m' : Machine}

/-- What the command prints is made of one review, or of its failure. -/
theorem run_executeStatus (made : (Keeper.make settings none).run.run m = (.ok keeper, m'))
    (json : Bool) : ((executeStatus settings json).run m).1 =
      statusOutcome json keeper.placeName (keeper.review.run.run m').1 := by
  have parts : ∀ keeper : Keeper, (do
      let state ← keeper.state
      let report ← keeper.report
      return (keeper.placeName, state, report) : Attempt Error (String × RegionState × Report)) =
        (keeper.placeName, ·) <$> keeper.review := by
    intro keeper
    simp [Keeper.review]
  simp only [executeStatus, parts, Program.run_bind, run_withKeeper made, Program.run_attempt_map]
  cases (keeper.review.run.run m').1 with
  | error err => rfl
  | ok seen => cases json <;> rfl

theorem run_executeCheck (made : (Keeper.make settings none).run.run m = (.ok keeper, m')) :
    ((executeCheck settings).run m).1 = checkOutcome (keeper.state.run.run m').1 := by
  simp only [executeCheck, Program.run_bind, run_withKeeper made, Keeper.isProvided,
    Program.run_attempt_bind]
  cases (keeper.state.run.run m').1 with
  | error err => rfl
  | ok state => cases state <;> rfl

end

theorem statusText_ne (json : Bool) (place : String) (state : RegionState) (report : Report) :
    statusText json place state report ≠ "" := by
  intro empty
  have nothing := congrArg String.toList empty
  cases json <;> simp [statusText, toString] at nothing

/-! ## Nothing but looks -/

open DeviceKeys.Action (Observes)
open Program (asks_pure)

theorem observes_make (settings : Settings) : (Keeper.make settings none).run.Asks Observes := by
  refine Keeper.asks_make Action.observes_log fun _ => ?_
  unfold Medium.ofSettings
  split
  · exact asks_pure _
  · exact Medium.asks_claim settings.region settings.path

theorem observes_withKeeper {α : Type} {body : Keeper → Attempt Error α} (settings : Settings)
    (h : ∀ keeper, (body keeper).run.Asks Observes) :
    (withKeeper settings body).run.Asks Observes := by
  refine (observes_make settings).run_bind fun keeper => ?_
  exact (h keeper).run_ensuring keeper.medium.asks_close.run_lift

theorem observes_executeStatus (settings : Settings) (json : Bool) :
    (executeStatus settings json).Asks Observes := by
  refine (observes_withKeeper settings fun keeper => ?_).bind ?_
  · refine keeper.medium.asks_inspect.run_bind fun state => ?_
    exact keeper.asks_report.run_bind fun report => asks_pure _
  · intro result
    cases result with
    | error err => exact asks_pure _
    | ok seen => cases json <;> exact asks_pure _

theorem observes_executeCheck (settings : Settings) : (executeCheck settings).Asks Observes := by
  refine (observes_withKeeper settings fun keeper => ?_).bind ?_
  · exact keeper.medium.asks_inspect.run_bind fun state => asks_pure _
  · intro result
    cases result with
    | error err => exact asks_pure _
    | ok provided => cases provided <;> exact asks_pure _

variable {args : List String} {env : Environment} {invocation : Invocation} {command : Command}

/-- A command line only looks if its command does. -/
theorem observes_run (read : Invocation.parse? args = some invocation)
    (understood : Command.parse? invocation.command invocation.arguments = some command)
    (h : ∀ settings, (execute settings command).Asks Observes) (env : Environment) :
    (run args env).Asks Observes := by
  simp only [run, read, understood]
  exact (Settings.asks_load Action.observes_log env _ _).bind h

/-! ## Diagnostics -/

section

variable (invocation : Invocation) (env : Environment) (m : Machine)

/-- What the look of a command line at the region of its keeper comes to. -/
def Invocation.probed : Except Error RegionState :=
  ((invocation.keeper env).state.run.run (invocation.opened env m)).1

/-- What the three looks of a command line come to: at the region of its keeper, at the private-key
region and at the customer's. -/
def Invocation.surveyed : Except Error (RegionState × RegionState × RegionState) :=
  ((invocation.keeper env).survey.run.run (invocation.opened env m)).1

end

/-- Whether a command line, whatever comes back, does no more than open the file, read regions and
close the file, and leaves the rows of the device as they were. -/
structure Harmless (args : List String) (env : Environment) : Prop where
  looks : ∀ (time : String) (m : Machine), ∀ event ∈ (invoke time args env m).1.events, event.IsLook
  rows : ∀ (time : String) (m : Machine), (invoke time args env m).2.device.rows = m.device.rows

/-- Who only looks takes no lock, writes nothing and draws nothing. -/
theorem harmless_of_observes (h : (run args env).Asks Observes) : Harmless args env where
  looks _ m := by
    intro event mem
    change event ∈ ((run args env).run { m.unrecorded with claims := .none }).2.events at mem
    rw [Program.events_run] at mem
    exact h.looks_of_events _ event mem
  rows _ m := h.rows_run { m.unrecorded with claims := .none }

/-- How `status` ends, by what its three looks came to: always well, with a report if each of them
saw something, and otherwise with the failure to read that was met. -/
structure StatusEnds (json : Bool) (place : String) (located : Bool)
    (surveyed : Except Error (RegionState × RegionState × RegionState)) (ended : Outcome) :
    Prop where
  exits : ended.exitStatus = 0 ∧ ended.usageError = false
  reports : ended.stdout ≠ "" ↔ ∃ seen, surveyed = .ok seen
  seen : ∀ own privateKey customer, surveyed = .ok (own, privateKey, customer) →
    ended = .success (statusText json place own (.ofStates located privateKey customer))
  unseen : ∀ err, surveyed = .error err → ∃ cause, err = .readingFailed cause ∧
    ended = ⟨0, "", s!"Status unavailable: {err.message}\n", false⟩

/-- How `check` ends, by what its look came to. -/
structure CheckEnds (probed : Except Error RegionState) (ended : Outcome) : Prop where
  programmed : ended.exitStatus = 0 ↔ probed = .ok .programmed
  unprogrammed : ended.exitStatus = 1 ↔ probed = .ok .blank ∨ probed = .ok .unavailable
  failed : ended.exitStatus = 5 ↔ ∃ cause, probed = .error (.readingFailed cause)
  only : ended.exitStatus = 0 ∨ ended.exitStatus = 1 ∨ ended.exitStatus = 5
  silent : ended.stdout = ""

/-- The status command ends well in any case, and prints a report if every probe is complete. -/
theorem statusEnds {json : Bool} {place : String} {located : Bool}
    {surveyed : Except Error (RegionState × RegionState × RegionState)}
    (failures : ∀ err, surveyed = .error err → ∃ cause, err = .readingFailed cause) :
    StatusEnds json place located surveyed (statusOutcome json place (surveyed.map
      fun (own, privateKey, customer) => (own, .ofStates located privateKey customer))) := by
  cases surveyed with
  | ok seen =>
    refine ⟨⟨rfl, rfl⟩, ?_, ?_, nofun⟩
    · exact iff_of_true (statusText_ne json place _ _) ⟨seen, rfl⟩
    · rintro own privateKey customer ⟨⟩
      rfl
  | error err =>
    obtain ⟨cause, rfl⟩ := failures err rfl
    refine ⟨⟨rfl, rfl⟩, ?_, nofun, ?_⟩
    · exact iff_of_false (fun printed => printed rfl) nofun
    · rintro _ ⟨⟩
      exact ⟨cause, rfl, rfl⟩

/-- Three ways to end, told apart by the one look. -/
theorem checkEnds {probed : Except Error RegionState}
    (failures : ∀ err, probed = .error err → ∃ cause, err = .readingFailed cause) :
    CheckEnds probed (checkOutcome probed) := by
  cases probed with
  | ok state => cases state <;> constructor <;> simp [checkOutcome]
  | error err =>
    obtain ⟨cause, rfl⟩ := failures err rfl
    have exit : (Error.readingFailed cause).exitStatus = 5 := rfl
    constructor <;> simp [checkOutcome, exit, Outcome.failure]

theorem atHome_keeper (env : Environment) (invocation : Invocation) :
    (invocation.keeper env).AtHome := by
  intro region own
  unfold Invocation.keeper Settings.medium at own ⊢
  split at own
  · cases own
  · cases own
    rfl

/-- What can be said of the two commands of diagnostics. -/
structure DiagnosticsSafe (args : List String) (env : Environment) (invocation : Invocation)
    (command : Command) : Prop where
  status : ∀ json, command = .status json → Harmless args env ∧ ∀ m : Machine,
    StatusEnds json (invocation.keeper env).placeName (m.device.hasFile Mailbox.standardPath)
      (invocation.surveyed env m) (outcome args env m)
  check : command = .check → Harmless args env ∧ ∀ m : Machine,
    CheckEnds (invocation.probed env m) (outcome args env m)

/-- Both commands only look, and end as the looks went. -/
theorem diagnostics_safe (read : Invocation.parse? args = some invocation)
    (understood : Command.parse? invocation.command invocation.arguments = some command)
    (env : Environment) : DiagnosticsSafe args env invocation command where
  status := by
    rintro json rfl
    have observes := observes_run read understood (observes_executeStatus · json) env
    refine ⟨harmless_of_observes observes, fun m => ?_⟩
    have home := atHome_keeper env invocation
    have ended := run_executeStatus (run_make_opened env invocation m) json
    rw [Keeper.run_review home roams_keeper, device_opened] at ended
    rw [outcome_eq read understood, execute, ended]
    exact statusEnds fun err => Keeper.survey_eq_error home roams_keeper
  check := by
    rintro rfl
    have observes := observes_run read understood observes_executeCheck env
    refine ⟨harmless_of_observes observes, fun m => ?_⟩
    rw [outcome_eq read understood, execute, run_executeCheck (run_make_opened env invocation m)]
    exact checkEnds fun err => Medium.inspect_eq_error

/-- On a device that fails once to read its customer region, the report is not to be had, and a
check of that region fails. -/
theorem diagnostics_safe_unreadable :
    Invocation.parse? ["status", "--json"] = some ⟨⟨false, none, false⟩, .status, ["--json"]⟩ ∧
      Command.parse? .status ["--json"] = some (.status true) ∧
      DiagnosticsSafe ["status", "--json"] .unset ⟨⟨false, none, false⟩, .status, ["--json"]⟩
        (.status true) ∧
      (outcome ["status", "--json"] .unset unreadable).stdout = "" ∧
      (outcome ["--customer-otp", "check"] .unset unreadable).exitStatus = 5 := by
  have read : Invocation.parse? ["status", "--json"] =
      some ⟨⟨false, none, false⟩, .status, ["--json"]⟩ := by decide +kernel
  have understood : Command.parse? .status ["--json"] = some (.status true) := by decide +kernel
  have unseen : (outcome ["status", "--json"] .unset unreadable).stdout = "" := by decide +kernel
  have failed : (outcome ["--customer-otp", "check"] .unset unreadable).exitStatus = 5 := by
    decide +kernel
  exact ⟨read, understood, diagnostics_safe read understood .unset, unseen, failed⟩

end CommandLine

end DeviceKeys
