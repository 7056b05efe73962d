import DeviceKeys.Proofs.Opening

/-!
# What can go wrong in diagnostics

A look at a region has one kind of error, a failure to read. The diagnostics take a look at both
regions, and for a region that is not the keeper's own they have to claim it first, which fails if
it is claimed already; where the other regions are free (`Keeper.Roams`) that does not happen, and
since a look gives back what it claimed, they are free for the next look too. Providing a region
has two kinds of errors, neither of which is that of a look.
-/

set_option autoImplicit false

namespace DeviceKeys

/-! ## Looks -/

namespace Medium

variable {m : Machine} {err : Error}

theorem inspectRegion_eq_error {region : Region} {path : String}
    (h : ((inspectRegion region path).run.run m).1 = .error err) :
    ∃ cause, err = .readingFailed cause := by
  obtain ⟨seen, -, judged⟩ := inspected region path m
  rw [judged] at h
  exact judge_eq_error h

/-- A look that fails has failed to read. -/
theorem inspect_eq_error {medium : Medium} (h : (medium.inspect.run.run m).1 = .error err) :
    ∃ cause, err = .readingFailed cause := by
  cases medium with
  | override seed => cases h
  | otp region path claim => exact inspectRegion_eq_error h

end Medium

namespace Claims

variable {claims : Claims} {region other : Region}

/-- A claim that is given back at once leaves every region that was free as free as it was. -/
theorem isClaimed_release_claim (free : claims.isClaimed region = false)
    (h : claims.isClaimed other = false) :
    ((claims.claim region).2.release claims.granted).isClaimed other = false := by
  rw [claim_of_free free]
  simp only [isClaimed, release, List.any_eq_false] at h ⊢
  intro held mem
  obtain ⟨mem, kept⟩ := List.mem_filter.1 mem
  rcases List.mem_cons.1 mem with rfl | mem
  · simp at kept
  · exact h held mem

end Claims

/-! ## Reports -/

namespace Keeper

variable {keeper : Keeper} {region : Region} {m : Machine} {err : Error}

/-- No region but the keeper's own is claimed, so that each can be claimed for a look. -/
def Roams (keeper : Keeper) (claims : Claims) : Prop :=
  ∀ region, keeper.medium.region? ≠ some region → claims.isClaimed region = false

/-- A look through a medium that is made for it is a look with the region claimed. -/
theorem run_stateOf (other : keeper.medium.region? ≠ some region)
    (free : m.claims.isClaimed region = false) :
    let seen := (Medium.inspectRegion region keeper.settings.path).run.run
      { m with claims := (m.claims.claim region).2 }
    (keeper.stateOf region).run.run m =
      (seen.1, { seen.2 with claims := (m.claims.claim region).2.release m.claims.granted }) := by
  intro seen
  have kept : seen.2.claims = (m.claims.claim region).2 :=
    claims_state ⟨keeper.settings, .otp region keeper.settings.path m.claims.granted⟩
      { m with claims := (m.claims.claim region).2 }
  rw [← kept]
  simp only [stateOf, if_neg other, Program.run_attempt_bind,
    Medium.run_claim free, Program.run_ensuring, Program.run_lift]
  rfl

theorem stateOf_eq_error (roams : keeper.Roams m.claims)
    (h : ((keeper.stateOf region).run.run m).1 = .error err) :
    ∃ cause, err = .readingFailed cause := by
  by_cases own : keeper.medium.region? = some region
  · rw [stateOf, if_pos own] at h
    exact Medium.inspect_eq_error h
  · rw [run_stateOf own (roams region own)] at h
    exact Medium.inspectRegion_eq_error h

/-- A look at the other region gives its claim back, and the keeper can look again. -/
theorem Roams.stateOf (roams : keeper.Roams m.claims) (region : Region) :
    keeper.Roams ((keeper.stateOf region).run.run m).2.claims := by
  by_cases own : keeper.medium.region? = some region
  · have kept : ((keeper.stateOf region).run.run m).2.claims = m.claims := by
      rw [Keeper.stateOf, if_pos own]
      exact claims_state keeper m
    rw [kept]
    exact roams
  · rw [run_stateOf own (roams region own)]
    intro other apart
    exact Claims.isClaimed_release_claim (roams region own) (roams other apart)

/-- A report can only fail to read a region. -/
theorem report_eq_error (roams : keeper.Roams m.claims)
    (h : (keeper.report.run.run m).1 = .error err) : ∃ cause, err = .readingFailed cause := by
  rcases Program.run_bind_eq_error h with first | ⟨privateKey, -, h⟩
  · exact stateOf_eq_error roams first
  rcases Program.run_bind_eq_error h with second | ⟨customer, -, h⟩
  · exact stateOf_eq_error (roams.stateOf .privateKey) second
  · cases h

/-- A look at the keeper's own region, and then a report. -/
def review (keeper : Keeper) : Attempt Error (RegionState × Report) := do
  let state ← keeper.state
  let report ← keeper.report
  return (state, report)

theorem review_eq_error (roams : keeper.Roams m.claims)
    (h : (keeper.review.run.run m).1 = .error err) : ∃ cause, err = .readingFailed cause := by
  rcases Program.run_bind_eq_error h with looked | ⟨state, -, h⟩
  · exact Medium.inspect_eq_error looked
  rcases Program.run_bind_eq_error h with reported | ⟨report, -, h⟩
  · rw [← claims_state keeper m] at roams
    exact report_eq_error roams reported
  · cases h

end Keeper

/-! ## Providing -/

namespace Medium

/-- The errors of programming a region. -/
inductive ProgramFailure : Error → Prop
  | missing (cause : MissingCause) : ProgramFailure (.mediumMissing cause)
  | occupied (region : Region) : ProgramFailure (.alreadyProgrammed region)
  | failed (cause : ProgramCause) : ProgramFailure (.programmingFailed cause)

variable {region : Region} {path : String} {value : Block} {result : Except Error Unit}
  {calls : List Moment} {err : Error}

/-- A burning fails in the ways of programming. -/
theorem Burnt.failure (h : Burnt region value result calls) (failed : result = .error err) :
    ProgramFailure err := by
  cases h <;> cases failed <;> constructor

/-- A clean-up that fails turns any outcome into a failure of the lock. -/
theorem programFailure_settle {cleanup : Except CallError Unit}
    (h : ∀ err, result = .error err → ProgramFailure err)
    (failed : Program.settle result (cleanup.mapError (lockingFailed path)) = .error err) :
    ProgramFailure err := by
  rcases cleanup with cause | ⟨⟨⟩⟩
  · cases failed
    exact .failed _
  · exact h err failed

theorem Programmed.failure (h : Programmed region path value result calls)
    (failed : result = .error err) : ProgramFailure err := by
  cases h with
  | unopened opens =>
    cases failed
    unfold openingFailed
    split
    · exact .missing _
    · exact .failed _
  | unlocked opens locks closes =>
    refine programFailure_settle ?_ failed
    rintro _ ⟨⟩
    exact .failed _
  | bracketed opens locks burnt unlocks closes =>
    refine programFailure_settle ?_ failed
    intro inner failed
    exact programFailure_settle (fun _ => burnt.failure) failed

end Medium

namespace Keeper

variable {m : Machine} {err : Error}

/-- Of the failures of programming a keeper lets two kinds through. -/
theorem Provided.failure {region : Region} {path : String}
    {result : Except Error ProvisionOutcome} {calls : List Moment}
    (h : Provided region path result calls) (failed : result = .error err) :
    err.kind = .regionUnavailable ∨ err.kind = .programmingFailed := by
  cases h with
  | uninspected looked =>
    cases failed
    exact .inr rfl
  | unavailable looked =>
    cases failed
    exact .inl rfl
  | already looked => cases failed
  | @fresh value draw result calls programming looked draws drawn programmed =>
    rcases result with cause | _
    · -- Of the errors of programming, one is no error here and one becomes another error.
      cases programmed.failure rfl <;> cases failed
      · exact .inl rfl
      · exact .inr rfl
    · cases failed

/-- Providing a region fails in two ways: the region is not offered, or programming it failed. -/
theorem provide_eq_error {keeper : Keeper} (h : (keeper.provide.run.run m).1 = .error err) :
    err.kind = .regionUnavailable ∨ err.kind = .programmingFailed := by
  obtain ⟨settings, medium⟩ := keeper
  cases medium with
  | override seed => cases h
  | otp region path claim => exact (provided settings region path claim m).failure h

end Keeper

end DeviceKeys
