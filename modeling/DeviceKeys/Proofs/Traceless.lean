import DeviceKeys.Proofs.Accounts
import DeviceKeys.Proofs.Offers
import DeviceKeys.Proofs.Survey
import Mathlib.Data.List.Basic

/-!
# Reports leave no trace

A report looks at the private-key region and then at the customer's: at the keeper's own through the
medium that it keeps, at the other through a medium that is made for the look and ended behind it.
Each look is compared with a bare one, which needs no medium and no claim (`Keeper.glance`): it sees
the same and leaves the same device behind, unless the region is another's; and whatever it comes
to, the claims that are held are the same as before. Put together, two bare looks in a row tell
everything about a report (`Keeper.report_traceless`).
-/

set_option autoImplicit false

namespace DeviceKeys

open DeviceKeys.Action (IsIdle Looks)

/-! ## Claims that are given back -/

namespace Claims

variable {claims : Claims} {region : Region}

/-- The claims that are held were all granted. -/
def Numbered (claims : Claims) : Prop := ∀ held ∈ claims.held, held.1 < claims.granted

/-- So they are in every process, whatever it did with its media. -/
theorem numbered_of_census {deeds : List Deed} (census : Census deeds claims) :
    claims.Numbered := by
  rintro ⟨id, region⟩ held
  obtain ⟨before, after, rfl, -⟩ := (census.held id region).1 held
  exact census.granted id (List.mem_filterMap.2 ⟨.made id region, by simp, rfl⟩)

/-- Which regions are claimed is told by the claims that are held. -/
theorem isClaimed_congr {claims claims' : Claims} (same : claims'.held = claims.held)
    (region : Region) : claims'.isClaimed region = claims.isClaimed region := by
  rw [isClaimed, isClaimed, same]

/-- A claim that is given back leaves nothing but its number. -/
theorem release_claim (numbered : claims.Numbered) (free : claims.isClaimed region = false) :
    (claims.claim region).2.release claims.granted =
      { claims with granted := claims.granted + 1 } := by
  have kept : claims.held.filter (fun held => held.1 != claims.granted) = claims.held := by
    refine List.filter_eq_self.2 fun held mem => ?_
    exact bne_iff_ne.2 (Nat.ne_of_lt (numbered held mem))
  rw [claim_of_free free]
  simp [release, kept]

end Claims

/-! ## Looks on special devices -/

/-- Where no fault lies in wait, nothing is left of a run that observes. -/
theorem Program.Asks.device_run_of_faultless {α : Type} {program : Program α}
    (h : program.Asks Action.Observes) {m : Machine} (faultless : m.device.faults = []) :
    (program.run m).2.device = m.device := by
  have faults : (program.run m).2.device.faults = [] := by
    have effects := (program.linked_calls m).effects
    rw [Device.effects, Device.effects, faultless, List.map_nil] at effects
    exact List.map_eq_nil_iff.1 effects
  obtain ⟨present, rest⟩ := Prod.mk.inj (program.fixture_run m)
  obtain ⟨path, unavailable⟩ := Prod.mk.inj rest
  have rows := h.rows_run m
  cases left : (program.run m).2.device
  cases start : m.device
  simp_all

/-- A visit to a file that is not there ends with the open, whatever faults lie in wait. -/
theorem Handle.run_visit_of_absent {region : Region} {path : String} {m : Machine}
    (absent : m.device.hasFile path = false) : ((visit region path).run.run m).1 =
      .error (.system CallError.noSuchFile (some path)) := by
  have missing : m.device.openAt path = (.error CallError.noSuchFile, m.device) := by
    rw [Device.openAt, absent]
    rfl
  have opened : (openAt path).run.run m =
      (.error (.system CallError.noSuchFile (some path)), m.record (.openAt path)) := by
    show (Program.perform (.openAt path) >>= _).run m = _
    rw [Program.run_bind, Program.run_perform]
    simp only [Machine.answer, Machine.onDevice, Machine.record, missing]
    rfl
  rw [visit, use, Program.run_attempt_bind, opened]

theorem Medium.run_inspectRegion_of_absent {region : Region} {path : String} {m : Machine}
    (absent : m.device.hasFile path = false) :
    ((inspectRegion region path).run.run m).1 = .ok .unavailable := by
  obtain ⟨log, run⟩ := exists_run_inspectRegion region path m
  rw [run, Handle.run_visit_of_absent absent]
  exact @judge_missing region (some path)

/-! ## Marks -/

/-- What an observer of both the process and the device sees of a question: a deed in the life of
media, or a call. -/
def Moment.mark? (q : Moment) : Option (Deed ⊕ Event) :=
  (q.deed?.map .inl).or (q.event?.map .inr)

/-- An idle program leaves no deeds among its marks, and its events as they are. -/
theorem Program.Asks.marks {α : Type} {program : Program α} (h : program.Asks IsIdle)
    (m : Machine) : program.excerpt Moment.mark? m = (program.events m).map .inr := by
  rw [Program.events, List.map_filterMap]
  refine List.filterMap_congr fun q mem => ?_
  have idle := h.forall_moments m q mem
  obtain ⟨machine, action⟩ := q
  cases action with
  | claim region => exact absurd idle not_false
  | release id => exact absurd idle not_false
  | _ => rfl

theorem Medium.marks_claim (region : Region) (path : String) (m : Machine) :
    (claim region path).run.excerpt Moment.mark? m =
      (⟨m, .claim region⟩ : Moment).deed?.toList.map .inl := by
  refine (Program.excerpt_bind_silent _ ?_ m).trans ?_
  · intro granted m
    cases granted with
    | some id => rfl
    | none => rfl
  · refine (Program.excerpt_lift _ _ m).trans ((Program.excerpt_perform _ _ m).trans ?_)
    -- A claim is no call, so the deed is all that there is to see of it.
    have unseen : (⟨m, .claim region⟩ : Moment).event? = none := rfl
    rw [Moment.mark?, unseen]
    cases (⟨m, .claim region⟩ : Moment).deed? <;> rfl

namespace Keeper

/-! ## Bare looks -/

variable (keeper : Keeper) (claims : Claims) (region : Region)

/-- The path on which a keeper looks at a region. -/
def pathTo : String :=
  match keeper.medium with
  | .otp own path _ => if own = region then path else keeper.settings.path
  | .override _ => keeper.settings.path

/-- The look of a keeper at a region, without a medium. -/
def bare : Attempt Error RegionState := Medium.inspectRegion region (keeper.pathTo region)

/-- The region is not the keeper's own, and it is claimed. -/
def blocked : Bool := keeper.medium.region? != some region && claims.isClaimed region

/-- What a look comes to: a region that cannot be claimed is not looked at. -/
def permit {α : Type} (seen : Except Error α) : Except Error α :=
  if keeper.blocked claims region then .error (.regionClaimed region) else seen

/-- What a look leaves on record, if it makes these calls. -/
def marks (id : ClaimId) (events : List Event) : List (Deed ⊕ Event) :=
  if keeper.medium.region? = some region then events.map .inr
  else if claims.isClaimed region then [.inl (.refused region)]
  else .inl (.made id region) :: events.map .inr ++ [.inl (.ended id)]

variable {keeper claims region} {m m' : Machine}

/-- The own region is looked at through the own medium. -/
theorem inspect_of_own (own : keeper.medium.region? = some region) :
    keeper.medium.inspect = keeper.bare region := by
  obtain ⟨settings, medium⟩ := keeper
  cases medium with
  | override seed => cases own
  | otp other path claim =>
    obtain rfl : other = region := Option.some.inj own
    simp only [bare, pathTo, if_true]
    rfl

theorem bare_of_other (other : keeper.medium.region? ≠ some region) :
    keeper.bare region = Medium.inspectRegion region keeper.settings.path := by
  obtain ⟨settings, medium⟩ := keeper
  cases medium with
  | override seed => rfl
  | otp own path claim =>
    have apart : own ≠ region := fun same => other (congrArg some same)
    simp only [bare, pathTo, if_neg apart]

/-- A look at a region on one machine, against a bare look on another. -/
structure Glance (keeper : Keeper) (region : Region) (m m' : Machine) : Prop where
  seen : ((keeper.stateOf region).run.run m).1 =
    keeper.permit m.claims region ((keeper.bare region).run.run m').1
  held : ((keeper.stateOf region).run.run m).2.claims.held = m.claims.held
  numbered : ((keeper.stateOf region).run.run m).2.claims.Numbered
  device : keeper.blocked m.claims region = false → ((keeper.stateOf region).run.run m).2.device =
    ((keeper.bare region).run.run m').2.device
  marks : ∃ id, (keeper.stateOf region).run.excerpt Moment.mark? m =
    keeper.marks m.claims region id ((keeper.bare region).run.events m')

/-- No claim is needed for the own region. -/
theorem glance_of_own (own : keeper.medium.region? = some region) (numbered : m.claims.Numbered)
    (same : m'.device = m.device) : Glance keeper region m m' := by
  have looks := Medium.asks_inspectRegion region (keeper.pathTo region)
  have unblocked : keeper.blocked m.claims region = false := by simp [blocked, own]
  have unchanged : keeper.stateOf region = keeper.bare region := by
    rw [stateOf, if_pos own, inspect_of_own own]
  have kept : ((keeper.bare region).run.run m).2.claims = m.claims := by
    rw [← inspect_of_own own]
    exact claims_state keeper m
  obtain ⟨result, device⟩ := looks.looks_congr same
  refine ⟨?_, ?_, ?_, ?_, ?_⟩
  · simp only [unchanged, permit, unblocked]
    exact result.symm
  · rw [unchanged, kept]
  · rw [unchanged, kept]
    exact numbered
  · rw [unchanged]
    exact fun _ => device.symm
  · refine ⟨0, ?_⟩
    rw [unchanged, marks, if_pos own, bare, looks.looks_events same]
    exact (looks.mono fun _ => Looks.isIdle).marks m

/-- A region that is claimed stays with its owner, and the look does not come to pass. -/
theorem glance_of_claimed (other : keeper.medium.region? ≠ some region)
    (claimed : m.claims.isClaimed region = true) (numbered : m.claims.Numbered) :
    Glance keeper region m m' := by
  have blocked : keeper.blocked m.claims region = true := by simp [Keeper.blocked, other, claimed]
  have run : (keeper.stateOf region).run.run m = (.error (.regionClaimed region), m) := by
    rw [stateOf, if_neg other, Program.run_attempt_bind, Medium.run_claim_of_claimed claimed]
  refine ⟨?_, ?_, ?_, ?_, ?_⟩
  · rw [run, permit, if_pos blocked]
  · rw [run]
  · rw [run]
    exact numbered
  · simp [blocked]
  · refine ⟨0, ?_⟩
    rw [stateOf, if_neg other, Program.excerpt_attempt_bind, Medium.run_claim_of_claimed claimed,
      Medium.marks_claim, Moment.deed?_of_claimed rfl claimed, marks, if_neg other, if_pos claimed]
    rfl

/-- A free region is claimed, looked at and given back, and the claims are those of before. -/
theorem glance_of_free (other : keeper.medium.region? ≠ some region)
    (free : m.claims.isClaimed region = false) (numbered : m.claims.Numbered)
    (same : m'.device = m.device) : Glance keeper region m m' := by
  have looks := Medium.asks_inspectRegion region keeper.settings.path
  have unblocked : keeper.blocked m.claims region = false := by simp [blocked, free]
  -- With the region claimed, the look is still a look at the same device.
  have claimed : m'.device =
      ({ m with claims := (m.claims.claim region).2 } : Machine).device := same
  obtain ⟨result, device⟩ := looks.looks_congr claimed
  have run := run_stateOf other free
  rw [← bare_of_other other] at looks result device run
  have left : ((keeper.stateOf region).run.run m).2.claims =
      { m.claims with granted := m.claims.granted + 1 } := by
    rw [run]
    exact Claims.release_claim numbered free
  refine ⟨?_, ?_, ?_, ?_, ?_⟩
  · simp only [run, permit, unblocked]
    exact result.symm
  · rw [left]
  · rw [left]
    exact fun held mem => Nat.lt_succ_of_lt (numbered held mem)
  · rw [run]
    exact fun _ => device.symm
  · refine ⟨m.claims.granted, ?_⟩
    have idle := looks.mono fun _ => Looks.isIdle
    rw [stateOf, if_neg other, Program.excerpt_attempt_bind, Medium.run_claim free,
      Medium.marks_claim, Moment.deed?_of_free rfl free, marks, if_neg other,
      if_neg (Bool.eq_false_iff.1 free)]
    dsimp only
    rw [Program.excerpt_ensuring, Medium.inspect, ← bare_of_other other, idle.marks,
      looks.looks_events claimed]
    rfl

/-- The three cases of one look, from any claims that are numbered. -/
theorem glance (keeper : Keeper) (numbered : m.claims.Numbered) (same : m'.device = m.device)
    (region : Region) : Glance keeper region m m' := by
  by_cases own : keeper.medium.region? = some region
  · exact glance_of_own own numbered same
  · cases claimed : m.claims.isClaimed region with
    | true => exact glance_of_claimed own claimed numbered
    | false => exact glance_of_free own claimed numbered same

/-! ## Two looks in a row -/

theorem permit_congr {α : Type} {claims claims' : Claims} (same : claims'.held = claims.held)
    (region : Region) (seen : Except Error α) :
    keeper.permit claims' region seen = keeper.permit claims region seen := by
  have blocked : keeper.blocked claims' region = keeper.blocked claims region := by
    rw [Keeper.blocked, Keeper.blocked, Claims.isClaimed_congr same]
  rw [permit, permit, blocked]

theorem marks_congr {claims claims' : Claims} (same : claims'.held = claims.held)
    (region : Region) (id : ClaimId) (events : List Event) :
    keeper.marks claims' region id events = keeper.marks claims region id events := by
  simp only [marks, Claims.isClaimed_congr same]

theorem permit_eq_ok {α : Type} {seen : Except Error α} {value : α} :
    keeper.permit claims region seen = .ok value ↔
      keeper.blocked claims region = false ∧ seen = .ok value := by
  cases blocked : keeper.blocked claims region <;> simp [permit, blocked]

/-- A look fails where the region is claimed by another, or where the bare look does. -/
theorem permit_eq_error {err : Error}
    (h : keeper.permit claims region ((keeper.bare region).run.run m).1 = .error err) :
    (∃ region, err = .regionClaimed region ∧ keeper.medium.region? ≠ some region ∧
      claims.isClaimed region) ∨ ∃ cause, err = .readingFailed cause := by
  cases blocked : keeper.blocked claims region with
  | true =>
    rw [permit, if_pos blocked] at h
    cases h
    exact .inl ⟨region, rfl, by simpa [Keeper.blocked] using blocked⟩
  | false =>
    rw [permit, blocked] at h
    exact .inr (Medium.inspectRegion_eq_error h)

/-- Behind a first look that saw something, the second look is a look at the device that a bare
first look leaves. -/
theorem glance_customer (numbered : m.claims.Numbered) {state : RegionState}
    (seen : ((keeper.stateOf .privateKey).run.run m).1 = .ok state) :
    Glance keeper .customer ((keeper.stateOf .privateKey).run.run m).2
      ((keeper.bare .privateKey).run.run m).2 := by
  have first := keeper.glance numbered (Eq.refl m.device) .privateKey
  rw [first.seen, permit_eq_ok] at seen
  exact keeper.glance first.numbered (first.device seen.1).symm .customer

/-- Whatever came of it, a report leaves the claims as it found them. -/
theorem held_report (numbered : m.claims.Numbered) :
    (keeper.report.run.run m).2.claims.held = m.claims.held := by
  have first := keeper.glance numbered (Eq.refl m.device) .privateKey
  rw [report, Program.run_attempt_bind]
  cases seen : ((keeper.stateOf .privateKey).run.run m).1 with
  | error err => exact first.held
  | ok privateKey =>
    have second := (glance_customer numbered seen).held.trans first.held
    simp only [Program.run_attempt_bind]
    cases ((keeper.stateOf .customer).run.run ((keeper.stateOf .privateKey).run.run m).2).1 with
    | error err => exact second
    | ok customer => exact second

/-- A report is two bare looks in a row, each of them let through by the claims. -/
theorem run_report_bare (numbered : m.claims.Numbered) : (keeper.report.run.run m).1 = do
    let privateKey ← keeper.permit m.claims .privateKey ((keeper.bare .privateKey).run.run m).1
    let customer ← keeper.permit m.claims .customer
      ((keeper.bare .customer).run.run ((keeper.bare .privateKey).run.run m).2).1
    return .ofStates (m.device.hasFile keeper.settings.path) privateKey customer := by
  have first := keeper.glance numbered (Eq.refl m.device) .privateKey
  rw [report, Program.run_attempt_bind, ← first.seen]
  cases seen : ((keeper.stateOf .privateKey).run.run m).1 with
  | error err => rfl
  | ok privateKey =>
    have second := (glance_customer numbered seen).seen
    rw [permit_congr first.held] at second
    have located : ((keeper.stateOf .customer).run.run
        ((keeper.stateOf .privateKey).run.run m).2).2.device.hasFile keeper.settings.path =
          m.device.hasFile keeper.settings.path := by
      refine Device.hasFile_congr ?_ _
      rw [Program.fixture_run, Program.fixture_run]
    simp only [Program.run_attempt_bind, ← second]
    cases ((keeper.stateOf .customer).run.run ((keeper.stateOf .privateKey).run.run m).2).1 with
    | error err => rfl
    | ok customer =>
      rw [← located]
      rfl

/-- The deeds and events of a report, in their order. -/
theorem marks_report (numbered : m.claims.Numbered) : ∃ id id',
    keeper.report.run.excerpt Moment.mark? m =
      keeper.marks m.claims .privateKey id ((keeper.bare .privateKey).run.events m) ++
      match keeper.permit m.claims .privateKey ((keeper.bare .privateKey).run.run m).1 with
      | .ok _ => keeper.marks m.claims .customer id'
          ((keeper.bare .customer).run.events ((keeper.bare .privateKey).run.run m).2)
      | .error _ => [] := by
  have first := keeper.glance numbered (Eq.refl m.device) .privateKey
  obtain ⟨id, marks⟩ := first.marks
  rw [report, Program.excerpt_attempt_bind, ← first.seen, marks]
  cases seen : ((keeper.stateOf .privateKey).run.run m).1 with
  | error err => exact ⟨id, 0, rfl⟩
  | ok privateKey =>
    obtain ⟨id', marks'⟩ := (glance_customer numbered seen).marks
    rw [marks_congr first.held] at marks'
    refine ⟨id, id', ?_⟩
    rw [← marks']
    congr 1
    -- Behind the second look it is only asked whether the file is there, which is not seen.
    exact Program.excerpt_bind_silent _ (fun customer m => rfl) _

/-! ## Two results in a row

They give a value if both do, and fail with the first failure. -/

section

variable {α β γ ε : Type} {first : Except ε α} {second : Except ε β} {f : α → β → γ}

theorem both_eq_ok {value : γ} :
    (do let x ← first; let y ← second; return f x y) = Except.ok value ↔
      ∃ x y, first = .ok x ∧ second = .ok y ∧ f x y = value := by
  cases first with
  | error err => simp [bind, Except.bind]
  | ok x =>
    cases second with
    | error err => simp [bind, Except.bind]
    | ok y => simp [bind, Except.bind, pure, Except.pure]

theorem both_eq_error {err : ε} :
    (do let x ← first; let y ← second; return f x y) = Except.error err ↔
      first = .error err ∨ (∃ x, first = .ok x) ∧ second = .error err := by
  cases first with
  | error cause => simp [bind, Except.bind]
  | ok x =>
    cases second with
    | error cause => simp [bind, Except.bind]
    | ok y => simp [bind, Except.bind, pure, Except.pure]

end

/-! ## What can be said of a report -/

theorem roams_iff : keeper.Roams claims ↔ ∀ region, keeper.blocked claims region = false := by
  simp [Roams, blocked]

theorem report_eq_ok (numbered : m.claims.Numbered) {report : Report} :
    (keeper.report.run.run m).1 = .ok report ↔ keeper.Roams m.claims ∧
      ∃ privateKey customer, ((keeper.bare .privateKey).run.run m).1 = .ok privateKey ∧
        ((keeper.bare .customer).run.run ((keeper.bare .privateKey).run.run m).2).1 = .ok customer ∧
        .ofStates (m.device.hasFile keeper.settings.path) privateKey customer = report := by
  rw [run_report_bare numbered, both_eq_ok, roams_iff]
  simp only [permit_eq_ok]
  constructor
  · rintro ⟨privateKey, customer, ⟨free, first⟩, ⟨free', second⟩, made⟩
    refine ⟨?_, privateKey, customer, first, second, made⟩
    rintro (_ | _)
    · exact free
    · exact free'
  · rintro ⟨free, privateKey, customer, first, second, made⟩
    exact ⟨privateKey, customer, ⟨free _, first⟩, ⟨free _, second⟩, made⟩

theorem bare_of_absent (absent : m.device.hasFile keeper.settings.path = false)
    (configured : keeper.pathTo region = keeper.settings.path) :
    ((keeper.bare region).run.run m).1 = .ok .unavailable := by
  rw [bare, configured]
  exact Medium.run_inspectRegion_of_absent absent

/-- Everything about a report, in terms of two bare looks in a row. -/
structure Reported (keeper : Keeper) (m : Machine) : Prop where
  held : (keeper.report.run.run m).2.claims.held = m.claims.held
  rows : (keeper.report.run.run m).2.device.rows = m.device.rows
  /-- Nothing is locked, written or drawn. -/
  looks : ∀ event ∈ keeper.report.run.events m, event.IsLook
  /-- A keeper's own region is looked at as it is, another only with a medium around the look. -/
  marks : ∃ id id', keeper.report.run.excerpt Moment.mark? m =
    keeper.marks m.claims .privateKey id ((keeper.bare .privateKey).run.events m) ++
    match keeper.permit m.claims .privateKey ((keeper.bare .privateKey).run.run m).1 with
    | .ok _ => keeper.marks m.claims .customer id'
        ((keeper.bare .customer).run.events ((keeper.bare .privateKey).run.run m).2)
    | .error _ => []
  /-- The first failure is the result. -/
  result : (keeper.report.run.run m).1 = do
    let privateKey ← keeper.permit m.claims .privateKey ((keeper.bare .privateKey).run.run m).1
    let customer ← keeper.permit m.claims .customer
      ((keeper.bare .customer).run.run ((keeper.bare .privateKey).run.run m).2).1
    return .ofStates (m.device.hasFile keeper.settings.path) privateKey customer
  returns : (∃ report, (keeper.report.run.run m).1 = .ok report) ↔
    (∀ region, keeper.medium.region? ≠ some region → m.claims.isClaimed region = false) ∧
    (∃ state, ((keeper.bare .privateKey).run.run m).1 = .ok state) ∧
    ∃ state, ((keeper.bare .customer).run.run ((keeper.bare .privateKey).run.run m).2).1 = .ok state
  fails : ∀ err, (keeper.report.run.run m).1 = .error err →
    (∃ region, err = .regionClaimed region ∧ keeper.medium.region? ≠ some region ∧
      m.claims.isClaimed region) ∨ ∃ cause, err = .readingFailed cause
  flags : ∀ report, (keeper.report.run.run m).1 = .ok report →
    (report.privateKeyProgrammed ↔ report.privateKey = .programmed) ∧
    (report.customerProgrammed ↔ report.customer = .programmed)
  /-- Without faults, it makes no difference that the looks are taken in a row. -/
  faultless : m.device.faults = [] → ∀ report, (keeper.report.run.run m).1 = .ok report →
    ((keeper.bare .privateKey).run.run m).1 = .ok report.privateKey ∧
    ((keeper.bare .customer).run.run m).1 = .ok report.customer
  absent : ∀ report, (keeper.report.run.run m).1 = .ok report → report.mailboxPresent = false →
    (keeper.pathTo .privateKey = keeper.settings.path → report.privateKey = .unavailable) ∧
    (keeper.pathTo .customer = keeper.settings.path → report.customer = .unavailable)

/-- What is left of a report: the answer, and nothing else. -/
theorem report_traceless (keeper : Keeper) (m : Machine) (numbered : m.claims.Numbered) :
    Reported keeper m where
  held := held_report numbered
  rows := keeper.asks_report.rows_run m
  looks := keeper.asks_report.looks_of_events m
  marks := marks_report numbered
  result := run_report_bare numbered
  returns := by
    simp only [report_eq_ok numbered]
    constructor
    · rintro ⟨report, roams, privateKey, customer, first, second, -⟩
      exact ⟨roams, ⟨privateKey, first⟩, customer, second⟩
    · rintro ⟨roams, ⟨privateKey, first⟩, customer, second⟩
      exact ⟨_, roams, privateKey, customer, first, second, rfl⟩
  fails err failed := by
    rw [run_report_bare numbered, both_eq_error] at failed
    rcases failed with first | ⟨-, second⟩
    · exact permit_eq_error first
    · exact permit_eq_error second
  flags report returned := by
    obtain ⟨-, privateKey, customer, -, -, rfl⟩ := (report_eq_ok numbered).1 returned
    simp [Report.ofStates]
  faultless faults report returned := by
    obtain ⟨-, privateKey, customer, first, second, rfl⟩ := (report_eq_ok numbered).1 returned
    have observes : (keeper.bare .privateKey).run.Asks Action.Observes :=
      (Medium.asks_inspectRegion _ _).mono fun _ => .looks
    have still := observes.device_run_of_faultless faults
    have looks := Medium.asks_inspectRegion .customer (keeper.pathTo .customer)
    exact ⟨first, (looks.looks_congr still).1.symm.trans second⟩
  absent report returned nowhere := by
    obtain ⟨-, privateKey, customer, first, second, rfl⟩ := (report_eq_ok numbered).1 returned
    have absent : m.device.hasFile keeper.settings.path = false := nowhere
    have still := Device.hasFile_congr (Program.fixture_run (keeper.bare .privateKey).run m)
      keeper.settings.path
    constructor
    · intro configured
      exact Except.ok.inj (first.symm.trans (bare_of_absent absent configured))
    · intro configured
      exact Except.ok.inj (second.symm.trans (bare_of_absent (still.trans absent) configured))

/-- A process with a medium for each region. -/
def crowded : Machine :=
  ((do
    let _ ← Medium.claim .privateKey Mailbox.standardPath
    Medium.claim .customer Mailbox.standardPath : Attempt Error Medium).run.run
      (.start .blank [])).2

/-- The keeper of the one region cannot look at the other, and its report fails behind the first
look. -/
theorem report_traceless_crowded : crowded.claims.Numbered ∧ Reported standard crowded ∧
    (standard.report.run.run crowded).1 = .error (.regionClaimed .customer) ∧
    standard.report.run.events crowded =
      [.openAt Mailbox.standardPath, .request (.read .privateKey), .close] := by
  have numbered : crowded.claims.Numbered :=
    Claims.numbered_of_census (Census.run _ Census.nil).2
  refine ⟨numbered, report_traceless standard crowded numbered, ?_, ?_⟩
  · decide +kernel
  · decide +kernel

end Keeper

end DeviceKeys
