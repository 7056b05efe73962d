import DeviceKeys.Proofs.Diagnostics

/-!
# What the exit status of init says

The `init` command provides the region with a secret, and then reviews the device for the report
that it prints. Its exit status, its closing message and its output are decided by the two results
together (`run_executeInit`). If providing the region fails, the command says so and its exit status
tells the two kinds of failure apart. But the review can fail where providing the region did not,
and the failure takes the place of the success: the command tells the truth (`Truthful`) exactly if
this does not happen, and a device on which one region cannot be read (`unreadable`) is one on which
it does.
-/

set_option autoImplicit false

namespace DeviceKeys.CommandLine

/-! ## The command in terms of its keeper -/

/-- The closing message after a region was provided with a secret. -/
def closing : ProvisionOutcome → String
  | .programmed => "Device secret initialized.\n"
  | .alreadyProgrammed => "Device secret already initialized.\n"

/-- What the command ends with, given what the two parts of its work came to. -/
def initOutcome (provided : Except Error ProvisionOutcome)
    (reviewed : Except Error (RegionState × Report)) : Outcome :=
  match provided, reviewed with
  | .error err, _ => .failure err
  | .ok _, .error err => .failure err
  | .ok outcome, .ok (state, report) => ⟨0, reportLines state report, closing outcome, false⟩

theorem run_executeInit {settings : Settings} {keeper : Keeper} {m m' : Machine}
    (made : (Keeper.make settings none).run.run m = (.ok keeper, m')) :
    ((executeInit settings).run m).1 = initOutcome (keeper.provide.run.run m').1
      (keeper.review.run.run (keeper.provide.run.run m').2).1 := by
  have parts : ∀ keeper : Keeper, (do
      let outcome ← keeper.provide
      let state ← keeper.state
      let report ← keeper.report
      return (outcome, state, report) : Attempt Error (ProvisionOutcome × RegionState × Report)) =
        keeper.provide >>= fun outcome => (outcome, ·) <$> keeper.review := by
    intro keeper
    simp [Keeper.review]
  simp only [executeInit, parts, Program.run_bind, run_withKeeper made, Program.run_attempt_bind]
  cases provided : (keeper.provide.run.run m').1 with
  | error err => rfl
  | ok outcome =>
    simp only [Program.run_attempt_map]
    cases (keeper.review.run.run (keeper.provide.run.run m').2).1 with
    | error err => rfl
    | ok seen => cases outcome <;> rfl

/-! ## The two results -/

section

variable (invocation : Invocation) (env : Environment) (m : Machine)

/-- What providing the region comes to in the run of a command line. -/
def Invocation.provided : Except Error ProvisionOutcome :=
  ((invocation.keeper env).provide.run.run (invocation.opened env m)).1

/-- What the review comes to that follows it. -/
def Invocation.reviewed : Except Error (RegionState × Report) :=
  ((invocation.keeper env).review.run.run
    ((invocation.keeper env).provide.run.run (invocation.opened env m)).2).1

end

section

variable {args : List String} {env : Environment} {invocation : Invocation} {m : Machine}
  {err : Error}

theorem outcome_init (read : Invocation.parse? args = some invocation)
    (understood : Command.parse? invocation.command invocation.arguments = some .init)
    (env : Environment) (m : Machine) :
    outcome args env m = initOutcome (invocation.provided env m) (invocation.reviewed env m) := by
  rw [outcome_eq read understood]
  exact run_executeInit (run_make_opened env invocation m)

/-- The keeper of a command line is the only thing that claims a region. -/
theorem roams_keeper : (invocation.keeper env).Roams (invocation.opened env m).claims := by
  rw [claims_opened]
  intro region other
  cases override : (invocation.settings env).override with
  | some text =>
    have free : (invocation.settings env).claims .none = .none := by
      simp [Settings.claims, Settings.hasOverride, override]
    rw [free]
    rfl
  | none =>
    have own : (invocation.keeper env).medium.region? = some (invocation.settings env).region := by
      simp [Invocation.keeper, Settings.medium, override, Medium.region?]
    have apart : region ≠ (invocation.settings env).region := by
      rintro rfl
      exact other own
    have granted : (invocation.settings env).claims .none =
        (Claims.none.claim (invocation.settings env).region).2 := by
      simp [Settings.claims, Settings.hasOverride, override]
    rw [granted, Claims.isClaimed_claim rfl apart]
    rfl

theorem reviewed_eq_error (h : invocation.reviewed env m = .error err) :
    ∃ cause, err = .readingFailed cause := by
  refine Keeper.review_eq_error ?_ h
  rw [Keeper.claims_provide]
  exact roams_keeper

theorem provided_eq_error (h : invocation.provided env m = .error err) :
    err.kind = .regionUnavailable ∧ err.exitStatus = 2 ∨
      err.kind = .programmingFailed ∧ err.exitStatus = 3 := by
  rcases Keeper.provide_eq_error h with kind | kind
  · exact .inl ⟨kind, by rw [Error.exitStatus, kind]; decide⟩
  · exact .inr ⟨kind, by rw [Error.exitStatus, kind]; decide⟩

end

/-! ## Telling the truth -/

/-- The exit status and the closing message say what providing the region came to. -/
structure Truthful (provided : Except Error ProvisionOutcome) (ended : Outcome) : Prop where
  succeeded : ended.exitStatus = 0 ↔ ∃ outcome, provided = .ok outcome
  unavailable : ended.exitStatus = 2 ↔ ∃ err, provided = .error err ∧ err.kind = .regionUnavailable
  failed : ended.exitStatus = 3 ↔ ∃ err, provided = .error err ∧ err.kind = .programmingFailed
  only : ended.exitStatus = 0 ∨ ended.exitStatus = 2 ∨ ended.exitStatus = 3
  announced : ended.message = "Device secret initialized.\n" ↔ provided = .ok .programmed

/-- The message of a failure is none of the closing messages. -/
theorem message_failure_ne (err : Error) : (Outcome.failure err).message ≠
    "Device secret initialized.\n" := by
  intro same
  have first := congrArg (fun text => text.toList.head?) same
  simp [Outcome.failure, toString] at first

section

variable {provided : Except Error ProvisionOutcome} {err : Error}

theorem Truthful.of_failure (h : provided = .error err)
    (kinds : err.kind = .regionUnavailable ∧ err.exitStatus = 2 ∨
      err.kind = .programmingFailed ∧ err.exitStatus = 3) : Truthful provided (.failure err) := by
  subst h
  have status : (Outcome.failure err).exitStatus = err.exitStatus := rfl
  have message := message_failure_ne err
  obtain ⟨kind, exit⟩ | ⟨kind, exit⟩ := kinds
  · constructor <;> simp [status, exit, kind, message]
  · constructor <;> simp [status, exit, kind, message]

theorem Truthful.of_success {outcome : ProvisionOutcome} (h : provided = .ok outcome)
    (stdout : String) : Truthful provided ⟨0, stdout, closing outcome, false⟩ := by
  subst h
  constructor
  case announced => cases outcome <;> simp [closing]
  all_goals simp

end

/-- The command tells the truth exactly if the review that follows a success does not fail. If it
does fail, it is for a read, and the command ends like a command that could not read a secret. -/
theorem init_truthful_iff {args : List String} {env : Environment} {invocation : Invocation}
    (read : Invocation.parse? args = some invocation)
    (understood : Command.parse? invocation.command invocation.arguments = some .init)
    (m : Machine) :
    (Truthful (invocation.provided env m) (outcome args env m) ↔
      ∀ provision, invocation.provided env m = .ok provision →
        ∃ seen, invocation.reviewed env m = .ok seen) ∧
    ∀ provision err, invocation.provided env m = .ok provision →
      invocation.reviewed env m = .error err →
        err.kind = .readingFailed ∧ (outcome args env m).exitStatus = 5 ∧
          outcome args env m = .failure err := by
  have ended := outcome_init read understood env m
  have misled : ∀ provision err, invocation.provided env m = .ok provision →
      invocation.reviewed env m = .error err →
        err.kind = .readingFailed ∧ (outcome args env m).exitStatus = 5 ∧
          outcome args env m = .failure err := by
    intro provision err provided reviewed
    obtain ⟨cause, rfl⟩ := reviewed_eq_error reviewed
    rw [ended, provided, reviewed]
    exact ⟨rfl, rfl, rfl⟩
  refine ⟨⟨?_, ?_⟩, misled⟩
  · intro truthful provision provided
    cases reviewed : invocation.reviewed env m with
    | ok seen => exact ⟨seen, rfl⟩
    | error err =>
      have exit := (misled provision err provided reviewed).2.1
      rw [truthful.succeeded.2 ⟨provision, provided⟩] at exit
      cases exit
  · intro reviewed
    rw [ended]
    cases provided : invocation.provided env m with
    | error err => exact Truthful.of_failure rfl (provided_eq_error provided)
    | ok provision =>
      obtain ⟨⟨state, report⟩, seen⟩ := reviewed provision provided
      rw [seen]
      exact Truthful.of_success rfl _

/-- A blank device that fails once to read its customer region. -/
def unreadable : Machine :=
  .start { Device.blank with faults := [⟨.read, some .customer, 0, some 1, .fail 5⟩] } []

def plainInit : Invocation := ⟨⟨false, none, false⟩, .init, []⟩

/-- The private-key region is provided with a secret, and the command ends with the failure to read
the other region. -/
theorem init_untruthful : Invocation.parse? ["init"] = some plainInit ∧
    plainInit.provided .unset unreadable = .ok .programmed ∧
    (invoke "" ["init"] .unset unreadable).2.device.rows.get .privateKey = Machine.standardDraw ∧
    (invoke "" ["init"] .unset unreadable).1.exitStatus = 5 ∧
    (invoke "" ["init"] .unset unreadable).1.stderr =
      "Error: Unable to read the customer OTP region: [Errno 5] Input/output error\n" ∧
    ¬Truthful (plainInit.provided .unset unreadable) (outcome ["init"] .unset unreadable) := by
  have provided : plainInit.provided .unset unreadable = .ok .programmed := by decide +kernel
  have exit : (outcome ["init"] .unset unreadable).exitStatus = 5 := by decide +kernel
  refine ⟨by decide +kernel, provided, by decide +kernel, ?_, by decide +kernel, ?_⟩
  · rw [exitStatus_invoke, exit]
  intro truthful
  have succeeded := truthful.succeeded.2 ⟨_, provided⟩
  rw [exit] at succeeded
  cases succeeded

/-- On a blank device without faults it tells the truth. -/
theorem init_truthful_blank : Invocation.parse? ["init"] = some plainInit ∧
    Command.parse? plainInit.command plainInit.arguments = some .init ∧
    Truthful (plainInit.provided .unset (.start .blank []))
      (outcome ["init"] .unset (.start .blank [])) := by
  have read : Invocation.parse? ["init"] = some plainInit := by decide +kernel
  have understood : Command.parse? plainInit.command plainInit.arguments = some .init := by
    decide +kernel
  refine ⟨read, understood, (init_truthful_iff read understood _).1.2 ?_⟩
  intro provision _
  cases reviewed : plainInit.reviewed .unset (.start .blank []) with
  | ok seen => exact ⟨seen, rfl⟩
  | error err =>
    have fine : (plainInit.reviewed .unset (.start .blank [])).isOk = true := by decide +kernel
    rw [reviewed] at fine
    cases fine

end DeviceKeys.CommandLine
