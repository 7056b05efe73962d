import DeviceKeys.Keeper
import DeviceKeys.Proofs.Burning
import DeviceKeys.Proofs.Honesty

/-!
# Providing a region with a secret

A keeper decides twice whether a region is blank: once on a visit of its own, and once more under
the lock. `Provided` lists the ways on which it can come to a result, with the calls of each. Only
one way has a write on it, and only at its end, behind a draw and both looks, does the region hold
the secret; every other way leaves with a refusal or a failure, and the kind of the error tells
whether anything was written.
-/

set_option autoImplicit false

namespace DeviceKeys

/-! ## Looking -/

namespace Medium

/-- What a visit says about the state of its region. -/
def judge (region : Region) : Except CallError Block → Except Error RegionState
  | .ok value => .ok (stateOf value)
  | .error (.rejected _ _) => .ok .unavailable
  | .error (.system errno path) =>
    if errno = CallError.noSuchFile then .ok .unavailable
    else .error (.readingFailed (.call region (.system errno path)))

theorem judge_eq_error {region : Region} {seen : Except CallError Block} {err : Error}
    (h : judge region seen = .error err) : ∃ cause, err = .readingFailed cause := by
  unfold judge at h
  split at h
  · cases h
  · cases h
  · split at h
    · cases h
    · cases h
      exact ⟨_, rfl⟩

/-- Only a value that is not zeros says that a region is programmed. -/
theorem judge_eq_programmed {region : Region} {seen : Except CallError Block}
    (h : judge region seen = .ok .programmed) : ∃ value, seen = .ok value ∧ value ≠ Block.zero := by
  unfold judge at h
  split at h
  · next value =>
    refine ⟨value, rfl, ?_⟩
    rintro rfl
    cases h
  · cases h
  · split at h <;> cases h

/-- The state that is found on one visit, and the calls of the visit. -/
def Inspected (region : Region) (path : String) (found : Except Error RegionState)
    (calls : List Moment) : Prop :=
  ∃ seen, Handle.Visited region path seen calls ∧ found = judge region seen

theorem inspected (region : Region) (path : String) (m : Machine) :
    Inspected region path ((inspectRegion region path).run.run m).1
      ((inspectRegion region path).run.calls m) := by
  refine Program.calls_run_of_meets (Program.meets_run_bind.2 (Program.meets_outcome.2
    (Program.meets_of_calls_run (Handle.visited region path m) ?_)))
  intro seen m qs visited
  rcases seen with (⟨errno, path⟩ | ⟨tag, code⟩) | value
  · by_cases missing : errno = CallError.noSuchFile
    · have isMissing : (CallError.system errno path).isMissingFile = true := beq_iff_eq.2 missing
      simp only [isMissing, ↓reduceIte]
      refine Ledger.meets_log_bind ?_
      intro m
      exact ⟨_, visited, (if_pos missing).symm⟩
    · have isMissing : (CallError.system errno path).isMissingFile = false :=
        beq_eq_false_iff_ne.2 missing
      simp only [isMissing]
      exact ⟨_, visited, (if_neg missing).symm⟩
  · refine Ledger.meets_log_bind ?_
    intro m
    exact ⟨_, visited, rfl⟩
  · refine Ledger.meets_log_bind ?_
    intro m
    exact ⟨_, visited, rfl⟩

/-- A block has the size of a secret. -/
theorem program_toList (region : Region) (path : String) (claim : ClaimId) (value : Block) :
    (otp region path claim).program value.toList = programRegion region path value := by
  rw [program, Block.ofBytes?_toList]

end Medium

/-! ## Providing -/

namespace Keeper

/-- What the end of a programming is reported as. -/
def conclude (region : Region) : Except Error Unit → Except Error ProvisionOutcome
  | .ok () => .ok .programmed
  | .error (.alreadyProgrammed _) => .ok .alreadyProgrammed
  | .error (.mediumMissing _) => .error (.regionUnavailable region.name)
  | .error err => .error err

theorem conclude_eq_programmed {region : Region} {result : Except Error Unit}
    (h : conclude region result = .ok .programmed) : result = .ok () := by
  unfold conclude at h
  split at h
  · rfl
  · cases h
  · cases h
  · cases h

/-- The result of providing a region with a secret, and the calls that are made for it. -/
inductive Provided (region : Region) (path : String) :
    Except Error ProvisionOutcome → List Moment → Prop
  | uninspected {cause : ReadCause} {calls : List Moment}
      (looked : Medium.Inspected region path (.error (.readingFailed cause)) calls) :
      Provided region path (.error (.programmingFailed (.inspecting region.name cause))) calls
  | unavailable {calls : List Moment}
      (looked : Medium.Inspected region path (.ok .unavailable) calls) :
      Provided region path (.error (.regionUnavailable region.name)) calls
  | already {calls : List Moment}
      (looked : Medium.Inspected region path (.ok .programmed) calls) :
      Provided region path (.ok .alreadyProgrammed) calls
  | fresh {value : Block} {draw : Moment} {result : Except Error Unit}
      {calls programming : List Moment}
      (looked : Medium.Inspected region path (.ok .blank) calls)
      (draws : draw.event? = some .random) (drawn : draw.outcome = .ok value)
      (programmed : Medium.Programmed region path value result programming) :
      Provided region path (conclude region result) (calls ++ [draw] ++ programming)

section

variable (settings : Settings) (region : Region) (path : String) (claim : ClaimId)

/-- The part behind a look that found the region blank. -/
theorem meets_provideFresh {calls : List Moment}
    (looked : Medium.Inspected region path (.ok .blank) calls) (m : Machine) :
    (provideFresh ⟨settings, .otp region path claim⟩).run.Meets Ledger.contract
      (fun result l => Provided region path result l.calls) ⟨m, calls⟩ := by
  refine Program.meets_run_bind.2 (Program.meets_run_lift.2
    (Ledger.meets_draw ?_))
  intro draw m value draws drawn
  refine Program.meets_run_bind.2 (Program.meets_outcome.2 ?_)
  rw [Medium.program_toList]
  refine Program.meets_of_calls_run (Medium.programmed region path value m) ?_
  intro result m' programming programmed
  have provided := Provided.fresh looked draws drawn programmed
  rcases result with err | ⟨⟨⟩⟩
  · cases err with
    | alreadyProgrammed other =>
      refine Ledger.meets_log_bind ?_
      intro m
      exact provided
    | _ => exact provided
  · refine Ledger.meets_log_bind ?_
    intro m
    exact provided

theorem provided (m : Machine) :
    Provided region path ((provide ⟨settings, .otp region path claim⟩).run.run m).1
      ((provide ⟨settings, .otp region path claim⟩).run.calls m) := by
  refine Program.calls_run_of_meets (Program.meets_run_bind.2 (Program.meets_run_adapt.2
    (Program.meets_of_calls_run (Medium.inspected region path m) ?_)))
  intro found m calls looked
  rcases found with err | state
  · -- The look can only fail to read.
    obtain ⟨cause, rfl⟩ : ∃ cause, err = .readingFailed cause := by
      obtain ⟨seen, -, judged⟩ := looked
      exact Medium.judge_eq_error judged.symm
    exact .uninspected looked
  · cases state with
    | blank => exact meets_provideFresh settings region path claim looked m
    | programmed =>
      refine Ledger.meets_log_bind ?_
      intro m
      exact .already looked
    | unavailable => exact .unavailable looked

end

end Keeper

/-! ## What an outcome means -/

namespace Keeper

variable {region : Region} {path : String} {result : Except Error ProvisionOutcome}
  {calls : List Moment}

/-- At most one write is made, and if one is made then the result is success or a failure to
program. -/
theorem Provided.written (h : Provided region path result calls) :
    calls.filterMap Moment.written? = [] ∨
      ∃ value, calls.filterMap Moment.written? = [(region, value)] ∧
        (result = .ok .programmed ∨ ∃ cause, result = .error (.programmingFailed cause)) := by
  cases h with
  | uninspected looked | unavailable looked | already looked =>
    obtain ⟨seen, visited, -⟩ := looked
    exact .inl visited.plain.1
  | @fresh value draw result calls programming looked draws drawn programmed =>
    obtain ⟨seen, visited, -⟩ := looked
    have only : (calls ++ [draw] ++ programming).filterMap Moment.written? =
        programming.filterMap Moment.written? := by
      simp [visited.plain.1, Moment.written?, Event.written?, draws]
    rw [only]
    rcases programmed.written with unwritten | ⟨writes, outcome⟩
    · exact .inl unwritten
    refine .inr ⟨value, writes, ?_⟩
    obtain rfl | ⟨cause, rfl⟩ := outcome
    · exact .inl rfl
    · exact .inr ⟨cause, rfl⟩

/-- What lies behind a region that was provided with a secret by these calls. -/
structure Fulfilled (region : Region) (value : Block) (calls : List Moment) (left : Device) :
    Prop where
  drawn : calls.filterMap Moment.drawn? = [value]
  written : calls.filterMap Moment.written? = [(region, value)]
  /-- Between the lock and the write stands nothing but a read, and it finds all rows zero. -/
  checked : ∃ before l r w after, calls = before ++ [l, r, w] ++ after ∧ l.Makes .lock (.ok ()) ∧
    r.Reads region (.ok Block.zero) ∧ r.rows.get region = Block.zero ∧
    w.Makes (.request (.write region value)) (.ok ())
  kept : left.rows.get region = value

theorem Provided.fulfilled {d left : Device} (h : Provided region path (.ok .programmed) calls)
    (linked : Linked d calls left) (honest : d.Honest) :
    ∃ value, Fulfilled region value calls left := by
  generalize outcome : (.ok .programmed : Except Error ProvisionOutcome) = succeeded at h
  cases h with
  | uninspected _ | unavailable _ | already _ => cases outcome
  | @fresh value draw result calls programming looked draws drawn programmed =>
    obtain ⟨seen, visited, -⟩ := looked
    obtain rfl : result = .ok () := conclude_eq_programmed outcome.symm
    obtain ⟨o, l, r, w, b, u, c, rfl, opens, locks, reads, writes, rereads, unlocks, closes⟩ :=
      programmed.of_ok
    have honestly := (linked.honest honest).1
    have found : r.rows.get region = Block.zero := reads.rows_eq (honestly r (by simp))
    have held : b.rows.get region = value := rereads.rows_eq (honestly b (by simp))
    -- From the read-back on, nothing touches the rows.
    have split : calls ++ [draw] ++ [o, l, r, w, b, u, c] =
        (calls ++ [draw, o, l, r, w]) ++ [b, u, c] := by simp
    obtain ⟨e, -, rest⟩ := linked_append.1 (split ▸ linked)
    have still : left.rows = b.rows := by
      have quiet : ∀ q ∈ [b, u, c], q.event? ≠ some .lock ∧ q.written? = none := by
        simp [Moment.written?, Event.written?, rereads.1, unlocks.1, closes.1]
      rw [rest.rows_still quiet, ← rest.1]
      rfl
    refine ⟨value, ?_, ?_, ?_, still ▸ held⟩
    · simp [visited.plain.2, Moment.drawn?, draws, drawn, opens.1, locks.1, reads.1, writes.1,
        rereads.1, unlocks.1, closes.1, Except.toOption]
    · simp [visited.plain.1, Moment.written?, Event.written?, draws, opens.1, locks.1, reads.1,
        writes.1, rereads.1, unlocks.1, closes.1]
    · exact ⟨calls ++ [draw, o], l, r, w, [b, u, c], by simp, locks, reads, found, writes⟩

/-- The outcome tells what was written: success means one write, of the one value that was drawn,
on rows that had just been seen to be zero, and the rows hold it afterwards; a region that was
programmed before or that is not offered means no write; and a failure to program means at most
one. -/
theorem provide_outcome (keeper : Keeper) (kept : keeper.medium.region? = some region)
    (m : Machine) (honest : m.device.Honest) :
    ((keeper.provide.run.run m).1 = .ok .programmed →
      ∃ value, Fulfilled region value (keeper.provide.run.calls m)
        (keeper.provide.run.run m).2.device) ∧
    ((keeper.provide.run.run m).1 = .ok .alreadyProgrammed →
      (keeper.provide.run.calls m).filterMap Moment.written? = []) ∧
    ∀ err, (keeper.provide.run.run m).1 = .error err →
      (err.kind = .regionUnavailable →
        (keeper.provide.run.calls m).filterMap Moment.written? = []) ∧
      (err.kind = .programmingFailed →
        ((keeper.provide.run.calls m).filterMap Moment.written?).length ≤ 1) := by
  obtain ⟨settings, medium⟩ := keeper
  cases medium with
  | override seed => cases kept
  | otp own path claim =>
    obtain rfl : region = own := (Option.some.inj kept).symm
    have ways := provided settings region path claim m
    refine ⟨fun succeeded => ?_, fun already => ?_, fun err failed => ⟨fun kind => ?_, fun _ => ?_⟩⟩
    · rw [succeeded] at ways
      exact ways.fulfilled (Program.linked_calls _ m) honest
    · rw [already] at ways
      obtain unwritten | ⟨value, -, outcome | ⟨cause, outcome⟩⟩ := ways.written
      · exact unwritten
      · cases outcome
      · cases outcome
    · rw [failed] at ways
      obtain unwritten | ⟨value, -, outcome | ⟨cause, outcome⟩⟩ := ways.written
      · exact unwritten
      · cases outcome
      · cases outcome
        cases kind
    · obtain unwritten | ⟨value, writes, -⟩ := ways.written
      · simp [unwritten]
      · simp [writes]

/-- The keeper that standard settings lead to where nothing is claimed. -/
def standard : Keeper := ⟨.standard, .otp .privateKey Mailbox.standardPath 0⟩

theorem provide_outcome_blank :
    Device.blank.Honest ∧ (standard.provide.run.run (.start .blank [])).1 = .ok .programmed ∧
      ∃ value, Fulfilled .privateKey value (standard.provide.run.calls (.start .blank []))
        (standard.provide.run.run (.start .blank [])).2.device := by
  have honest : Device.blank.Honest := fun fault mem => absurd mem List.not_mem_nil
  have succeeded : (standard.provide.run.run (.start .blank [])).1 = .ok .programmed := by
    decide +kernel
  exact ⟨honest, succeeded, (provide_outcome standard rfl (.start .blank []) honest).1 succeeded⟩

end Keeper

end DeviceKeys
