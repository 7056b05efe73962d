import DeviceKeys.Proofs.Excerpts

/-!
# The claims of a process and the lives of its media

A process keeps its claims as a list of those that hold. What the list ought to say is told by what
was done before: media were made, each for a region, some could not be made, and some were closed
or dropped (`Deed`). A medium is alive if it was made and has not ended since (`Alive`).

`Census` says that the claims are those of the media that are alive, and no two of these share a
region. One question keeps it (`Census.after`), and so does every run; and on the way every question
finds it kept, which makes a claim fail exactly where the region has a medium that is alive, and
makes the end of a medium that had ended before an end of nothing (`Moment.Lawful`).
-/

set_option autoImplicit false

namespace DeviceKeys

/-! ## Deeds -/

/-- What happens in the life of the media of a process. A medium is known by its claim. -/
inductive Deed where
  | made (id : ClaimId) (region : Region)
  /-- A medium could not be made, since its region was claimed. -/
  | refused (region : Region)
  /-- A medium was closed, or was dropped. -/
  | ended (id : ClaimId)
  deriving DecidableEq, Repr

namespace Deed

/-- The medium that a deed makes. -/
def made? : Deed → Option ClaimId
  | made id _ => some id
  | refused _ | ended _ => none

theorem filterMap_made?_append (deeds : List Deed) (deed : Deed) :
    (deeds ++ [deed]).filterMap made? = deeds.filterMap made? ++ deed.made?.toList := by
  rw [List.filterMap_append]
  cases deed <;> rfl

end Deed

/-- What a question does in the life of the media. -/
def Moment.deed? (q : Moment) : Option Deed :=
  match q.action with
  | .claim region =>
    match (q.machine.claims.claim region).1 with
    | some id => some (.made id region)
    | none => some (.refused region)
  | .release id => some (.ended id)
  | _ => none

/-- The deeds of a run, in order. -/
abbrev Program.deeds {α : Type} (program : Program α) (m : Machine) : List Deed :=
  program.excerpt Moment.deed? m

/-! ## Media that are alive -/

/-- A medium was made for this region, and since then it was neither closed nor dropped. -/
def Alive (deeds : List Deed) (id : ClaimId) (region : Region) : Prop :=
  ∃ before after, deeds = before ++ .made id region :: after ∧ .ended id ∉ after

section

variable {deeds : List Deed} {id other : ClaimId} {region : Region}

theorem not_alive_nil : ¬Alive [] id region := by
  rintro ⟨before, after, nothing, -⟩
  simp at nothing

/-- One more deed: it makes a medium, or it leaves alive what it does not end. -/
theorem alive_append_singleton {deed : Deed} : Alive (deeds ++ [deed]) id region ↔
    deed = .made id region ∨ Alive deeds id region ∧ deed ≠ .ended id := by
  constructor
  · rintro ⟨before, after, split, lasts⟩
    rcases after.eq_nil_or_concat with rfl | ⟨after, last, rfl⟩
    · obtain ⟨-, same⟩ := List.append_inj' split rfl
      exact .inl (List.head_eq_of_cons_eq same)
    · rw [List.concat_eq_append] at split lasts
      rw [← List.cons_append, ← List.append_assoc] at split
      obtain ⟨rfl, same⟩ := List.append_inj' split rfl
      obtain rfl := List.head_eq_of_cons_eq same
      rw [List.mem_append, not_or] at lasts
      refine .inr ⟨⟨before, after, rfl, lasts.1⟩, ?_⟩
      rintro rfl
      exact lasts.2 (List.mem_singleton_self _)
  · rintro (rfl | ⟨⟨before, after, rfl, lasts⟩, stays⟩)
    · exact ⟨deeds, [], rfl, List.not_mem_nil⟩
    · refine ⟨before, after ++ [deed], by simp, ?_⟩
      simp [lasts, stays.symm]

end

/-! ## The census -/

/-- The claims of a process are those of its media that are alive. -/
structure Census (deeds : List Deed) (claims : Claims) : Prop where
  held : ∀ id region, (id, region) ∈ claims.held ↔ Alive deeds id region
  /-- A region is claimed exactly if it has a medium that is alive. -/
  claimed : ∀ region, claims.isClaimed region ↔ ∃ id, Alive deeds id region
  /-- No region has two of them. -/
  single : ∀ id other region, Alive deeds id region → Alive deeds other region → id = other
  /-- No two media were ever made under one number. -/
  distinct : (deeds.filterMap Deed.made?).Nodup
  granted : ∀ id ∈ deeds.filterMap Deed.made?, id < claims.granted

theorem Claims.isClaimed_iff {claims : Claims} {region : Region} :
    claims.isClaimed region ↔ ∃ id, (id, region) ∈ claims.held := by
  simp only [isClaimed, List.any_eq_true, beq_iff_eq, Prod.exists]
  constructor
  · rintro ⟨id, _, mem, rfl⟩
    exact ⟨id, mem⟩
  · rintro ⟨id, mem⟩
    exact ⟨id, region, mem, rfl⟩

/-- To give back a claim that is not held changes nothing. -/
theorem Claims.release_of_notMem {claims : Claims} {id : ClaimId}
    (h : ∀ region, (id, region) ∉ claims.held) : claims.release id = claims := by
  have kept : claims.held.filter (fun held => held.1 != id) = claims.held := by
    refine List.filter_eq_self.2 ?_
    rintro ⟨other, region⟩ mem
    rw [bne_iff_ne]
    rintro rfl
    exact h region mem
  exact congrArg (Claims.mk claims.granted) kept

namespace Census

variable {deeds : List Deed} {claims : Claims} {id : ClaimId} {region : Region}

/-- It is enough to know which claims are held. -/
theorem of_held (held : ∀ id region, (id, region) ∈ claims.held ↔ Alive deeds id region)
    (single : ∀ id other region, Alive deeds id region → Alive deeds other region → id = other)
    (distinct : (deeds.filterMap Deed.made?).Nodup)
    (granted : ∀ id ∈ deeds.filterMap Deed.made?, id < claims.granted) : Census deeds claims where
  held
  claimed region := Claims.isClaimed_iff.trans (exists_congr fun id => held id region)
  single
  distinct
  granted

theorem nil : Census [] .none := by
  refine of_held ?_ ?_ List.nodup_nil (List.forall_mem_nil _)
  · intro id region
    exact iff_of_false List.not_mem_nil not_alive_nil
  · intro id other region alive
    exact absurd alive not_alive_nil

theorem refused (h : Census deeds claims) (region : Region) :
    Census (deeds ++ [.refused region]) claims := by
  have same : ∀ id other, Alive (deeds ++ [.refused region]) id other ↔ Alive deeds id other := by
    intro id other
    rw [alive_append_singleton]
    simp
  refine of_held ?_ ?_ ?_ ?_
  · simpa only [same] using h.held
  · simpa only [same] using h.single
  · rw [Deed.filterMap_made?_append]
    simpa [Deed.made?] using h.distinct
  · rw [Deed.filterMap_made?_append]
    simpa [Deed.made?] using h.granted

/-- A region without a medium gets one, under a number that was never used. -/
theorem made (h : Census deeds claims) (free : claims.isClaimed region = false) :
    Census (deeds ++ [.made claims.granted region])
      ⟨claims.granted + 1, (claims.granted, region) :: claims.held⟩ := by
  have now : ∀ id other, Alive (deeds ++ [.made claims.granted region]) id other ↔
      (id = claims.granted ∧ other = region) ∨ Alive deeds id other := by
    intro id other
    rw [alive_append_singleton]
    simp [eq_comm]
  have unclaimed : ∀ id, ¬Alive deeds id region := by
    intro id alive
    exact absurd ((h.claimed region).2 ⟨id, alive⟩) (by simp [free])
  refine of_held ?_ ?_ ?_ ?_
  · intro id other
    rw [now, List.mem_cons, h.held, Prod.mk.injEq]
  · intro id id' other
    rw [now, now]
    rintro (⟨rfl, rfl⟩ | alive) (⟨rfl, also⟩ | alive')
    · rfl
    · exact absurd alive' (unclaimed _)
    · exact absurd (also ▸ alive) (unclaimed _)
    · exact h.single id id' other alive alive'
  · rw [Deed.filterMap_made?_append]
    refine List.nodup_append.2 ⟨h.distinct, by simp [Deed.made?], ?_⟩
    intro id mem new same
    obtain rfl : new = claims.granted := List.mem_singleton.1 same
    exact Nat.ne_of_lt (h.granted id mem)
  · intro id mem
    rw [Deed.filterMap_made?_append, List.mem_append] at mem
    rcases mem with mem | mem
    · exact Nat.lt_succ_of_lt (h.granted id mem)
    · obtain rfl : id = claims.granted := List.mem_singleton.1 mem
      exact Nat.lt_succ_self _

theorem ended (h : Census deeds claims) (id : ClaimId) :
    Census (deeds ++ [.ended id]) (claims.release id) := by
  have now : ∀ id' region, Alive (deeds ++ [.ended id]) id' region ↔
      Alive deeds id' region ∧ id' ≠ id := by
    intro id' region
    rw [alive_append_singleton]
    simp [eq_comm]
  refine of_held ?_ ?_ ?_ ?_
  · intro id' region
    rw [now, ← h.held]
    simp [Claims.release]
  · intro id' other region
    rw [now, now]
    exact fun alive alive' => h.single id' other region alive.1 alive'.1
  · rw [Deed.filterMap_made?_append]
    simpa [Deed.made?] using h.distinct
  · rw [Deed.filterMap_made?_append]
    simpa [Deed.made?, Claims.release] using h.granted

end Census

/-! ## Questions -/

namespace Moment

variable {q : Moment} {region : Region} {id : ClaimId}

theorem deed?_of_claimed (asked : q.action = .claim region)
    (claimed : q.machine.claims.isClaimed region) : q.deed? = some (.refused region) := by
  simp only [deed?, asked, Claims.claim, claimed, if_true]

theorem deed?_of_free (asked : q.action = .claim region)
    (free : q.machine.claims.isClaimed region = false) :
    q.deed? = some (.made q.machine.claims.granted region) := by
  simp only [deed?, asked, Claims.claim, free, Bool.false_eq_true, if_false]

/-- Only a claim is refused, and it leaves the claims as they were. -/
theorem claims_after_refused (h : q.deed? = some (.refused region)) :
    q.after.claims = q.machine.claims := by
  obtain ⟨m, action⟩ := q
  cases action with
  | claim other =>
    cases claimed : m.claims.isClaimed other with
    | true => simp [after, Machine.answer, Claims.claim, claimed]
    | false => cases (deed?_of_free rfl claimed).symm.trans h
  | release id => cases h
  | _ => rfl

theorem action_of_ended (h : q.deed? = some (.ended id)) : q.action = .release id := by
  obtain ⟨m, action⟩ := q
  cases action with
  | claim region =>
    cases claimed : m.claims.isClaimed region with
    | true => cases (deed?_of_claimed rfl claimed).symm.trans h
    | false => cases (deed?_of_free rfl claimed).symm.trans h
  | release other =>
    cases h
    rfl
  | _ => cases h

/-- A question that is put where these deeds were done finds the claims that they left, and keeps
to them. -/
structure Lawful (deeds : List Deed) (q : Moment) : Prop where
  census : Census deeds q.machine.claims
  /-- A region is refused exactly if it has a medium that is alive. -/
  refused : ∀ region, q.action = .claim region →
    (q.deed? = some (.refused region) ↔ ∃ id, Alive deeds id region)
  refusal : ∀ region, q.deed? = some (.refused region) → q.after.claims = q.machine.claims
  /-- To end a medium that is not alive any more changes no claim. -/
  stale : ∀ id, q.deed? = some (.ended id) → (∀ region, ¬Alive deeds id region) →
    q.after.claims = q.machine.claims

end Moment

namespace Census

variable {deeds : List Deed} {q : Moment}

/-- One question keeps the census. -/
theorem after (h : Census deeds q.machine.claims) :
    Census (deeds ++ q.deed?.toList) q.after.claims := by
  obtain ⟨m, action⟩ := q
  cases action with
  | claim region =>
    cases claimed : m.claims.isClaimed region with
    | true =>
      have refused := Moment.deed?_of_claimed (q := ⟨m, .claim region⟩) rfl claimed
      rw [refused, Moment.claims_after_refused refused]
      exact h.refused region
    | false =>
      have same : (⟨m, .claim region⟩ : Moment).after.claims = (m.claims.claim region).2 := rfl
      rw [Moment.deed?_of_free rfl claimed, same, Claims.claim, claimed]
      exact h.made claimed
  | release id => exact h.ended id
  | _ => exact (List.append_nil deeds).symm ▸ h

theorem lawful (h : Census deeds q.machine.claims) : q.Lawful deeds where
  census := h
  refused region asked := by
    cases claimed : q.machine.claims.isClaimed region with
    | true =>
      exact iff_of_true (Moment.deed?_of_claimed asked claimed) ((h.claimed region).1 claimed)
    | false =>
      refine iff_of_false ?_ fun alive => ?_
      · rw [Moment.deed?_of_free asked claimed]
        nofun
      · exact absurd ((h.claimed region).2 alive) (by simp [claimed])
  refusal _ := Moment.claims_after_refused
  stale id ends gone := by
    obtain ⟨m, action⟩ := q
    obtain rfl : action = .release id := Moment.action_of_ended ends
    refine Claims.release_of_notMem fun region mem => ?_
    exact gone region ((h.held id region).1 mem)

end Census

/-! ## Runs -/

/-- The questions that are put after these deeds were done, each of them lawful where it is put. -/
def Lawful : List Deed → List Moment → Prop
  | _, [] => True
  | deeds, q :: rest => q.Lawful deeds ∧ Lawful (deeds ++ q.deed?.toList) rest

theorem lawful_append {deeds : List Deed} {qs rs : List Moment} : Lawful deeds (qs ++ rs) ↔
    Lawful deeds qs ∧ Lawful (deeds ++ qs.filterMap Moment.deed?) rs := by
  induction qs generalizing deeds with
  | nil => simp [Lawful]
  | cons q qs ih =>
    have split : (q :: qs).filterMap Moment.deed? =
        q.deed?.toList ++ qs.filterMap Moment.deed? := by
      cases deed : q.deed? <;> simp [deed]
    rw [List.cons_append, Lawful, Lawful, ih, split, List.append_assoc, and_assoc]

/-- A run keeps the census, from its first question to its last. -/
theorem Census.run {α : Type} (program : Program α) {deeds : List Deed} {m : Machine}
    (h : Census deeds m.claims) : Lawful deeds (program.moments m) ∧
      Census (deeds ++ program.deeds m) (program.run m).2.claims := by
  induction program generalizing deeds m with
  | done value => exact ⟨trivial, (List.append_nil deeds).symm ▸ h⟩
  | ask action next ih =>
    have split : (Program.ask action next).deeds m = (⟨m, action⟩ : Moment).deed?.toList ++
        (next (m.answer action).1).deeds (m.answer action).2 := by
      show List.filterMap _ (_ :: _) = _
      cases deed : (⟨m, action⟩ : Moment).deed? <;> simp [deed, Program.excerpt]
    have first : Census (deeds ++ (⟨m, action⟩ : Moment).deed?.toList) (m.answer action).2.claims :=
      h.after
    obtain ⟨lawful, left⟩ := ih _ first
    refine ⟨⟨h.lawful, lawful⟩, ?_⟩
    rw [split, ← List.append_assoc]
    exact left

end DeviceKeys
