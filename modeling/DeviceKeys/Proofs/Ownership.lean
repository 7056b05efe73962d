import DeviceKeys.Proofs.Accounts
import DeviceKeys.Proofs.WriteOnce

/-!
# Who owns a region

A process starts without claims, and whatever its steps are, at every question on the way and at
the end its claims are those of the media that are alive: that were made by one of the steps, or
within one, and were neither closed nor dropped since. The census of one question and the account of
one step come together here for whole histories of a process (`World.Owned`).

A medium is dropped when no name leads to it any more. So no medium that is alive is out of reach,
as long as a name that stands for something is not given to another thing, which would take away the
name of a medium without dropping it.
-/

set_option autoImplicit false

namespace DeviceKeys

/-! ## Names -/

/-- The name under which a step keeps what it makes. -/
def Step.binds? : Step → Option String
  | .makeSettings name _ | .loadSettings name _ _ | .claimRegion name _ _ | .makeOverride name _
  | .selectMedium name _ | .makeKeeper name _ _ | .openHandle name _ => some name
  | .alterDevice _ | .operate _ _ | .drop _ | .mailboxPresent _ | .offersPrivateKey _ => none

namespace Session

variable {s : Session} {m : Machine} {name : String}

/-- Each name stands for one item. -/
def Tidy (s : Session) : Prop := (s.items.map Prod.fst).Nodup

theorem reaches_iff {id : ClaimId} :
    s.reaches id ↔ ∃ name item, (name, item) ∈ s.items ∧ item.claim? = some id := by
  simp [reaches]

/-- Where every name stands for one item, an item that is held is found. -/
theorem Tidy.item?_eq_some (h : s.Tidy) {item : Item} (mem : (name, item) ∈ s.items) :
    s.item? name = some item := by
  obtain ⟨env, items⟩ := s
  induction items with
  | nil => cases mem
  | cons first rest ih =>
    obtain ⟨apart, tidy⟩ := List.nodup_cons.1 h
    rcases List.mem_cons.1 mem with rfl | mem
    · exact List.lookup_cons_self
    · have other : (name == first.1) = false := by
        rw [beq_eq_false_iff_ne]
        rintro rfl
        exact apart (List.mem_map.2 ⟨_, mem, rfl⟩)
      show List.lookup name (first :: rest) = some item
      rw [List.lookup_cons, other]
      exact ih tidy mem

/-- What a step leaves of the session. -/
inductive Changes (s : Session) (step : Step) : Session → Prop
  | same : Changes s step s
  | kept {name : String} (item : Item) (binds : step.binds? = some name) :
      Changes s step (s.keep name item)
  | replaced {name : String} {handle : Handle} (left : Handle)
      (found : s.item? name = some (.handle handle)) :
      Changes s step (s.replace name (.handle left))
  | dropped {name : String} (drops : step = .drop name) : Changes s step (s.forget name)

theorem changes_make {step : Step} (binds : step.binds? = some name)
    (body : Attempt Error (Item × Answer)) : s.Changes step ((s.make name body).run m).1.2 := by
  rw [run_make]
  cases (body.run.run m).1 with
  | ok made => exact .kept made.1 binds
  | error err => exact .same

theorem changes_operate {operation : Operation} :
    s.Changes (.operate name operation) ((s.operate name operation).run m).1.2 := by
  unfold operate
  split
  next => rw [Program.run_bind]; exact .same
  next => rw [Program.run_bind]; exact .same
  next handle found => rw [Program.run_bind]; exact .replaced _ found
  next => exact .same
  next => exact .same

theorem run_drop : ((s.drop name).run m).1 = s.forget name := by
  unfold drop
  cases (s.item? name).bind Item.claim? with
  | none => rfl
  | some id => cases reached : (s.forget name).reaches id <;> simp only [reached] <;> rfl

/-- One case for each step: it binds a name, lets one go, or changes an item in its place. -/
theorem changes_perform (s : Session) (m : Machine) (step : Step) :
    s.Changes step ((s.perform step).run m).1.2 := by
  cases step with
  | alterDevice change => exact .same
  | operate name operation => exact changes_operate
  | drop name =>
    have left : ((s.perform (.drop name)).run m).1.2 = s.forget name := by
      rw [perform, Program.run_bind, Program.run_pure, run_drop]
    exact left ▸ .dropped rfl
  | mailboxPresent path => exact .same
  | offersPrivateKey path =>
    rw [perform, Program.run_bind]
    exact .same
  | _ => exact changes_make rfl _

/-- A session stays tidy as long as names are not given twice. -/
theorem Tidy.changes {step : Step} {s' : Session} (h : s.Tidy)
    (fresh : ∀ name, step.binds? = some name → s.item? name = none)
    (changes : s.Changes step s') : s'.Tidy := by
  cases changes with
  | same => exact h
  | @kept name item binds =>
    refine List.nodup_cons.2 ⟨?_, h⟩
    intro mem
    obtain ⟨⟨_, held⟩, within, rfl⟩ := List.mem_map.1 mem
    cases (fresh _ binds).symm.trans (h.item?_eq_some within)
  | @replaced name handle left found =>
    have names : (s.replace name (.handle left)).items.map Prod.fst = s.items.map Prod.fst := by
      simp [replace, Function.comp_def]
    rw [Tidy, names]
    exact h
  | dropped drops => exact h.sublist (List.filter_sublist.map Prod.fst)

/-- Whatever a step leaves out of reach, it ends. -/
theorem Changes.reaches {step : Step} {s' : Session} {id : ClaimId} (changes : s.Changes step s')
    (tidy : s.Tidy) (h : s.reaches id) : s'.reaches id ∨ s.concern step = .ends id := by
  obtain ⟨name, item, mem, claim⟩ := reaches_iff.1 h
  have found := tidy.item?_eq_some mem
  cases changes with
  | same => exact .inl h
  | kept other binds =>
    exact .inl (reaches_iff.2 ⟨name, item, List.mem_cons_of_mem _ mem, claim⟩)
  | @replaced other handle left replaces =>
    -- What is replaced is a handle, and leads to no medium.
    have apart : name ≠ other := by
      rintro rfl
      cases found.symm.trans replaces
      cases claim
    refine .inl (reaches_iff.2 ⟨name, item, List.mem_map.2 ⟨_, mem, ?_⟩, claim⟩)
    simp [apart]
  | @dropped other drops =>
    by_cases same : name = other
    · subst same drops
      cases reached : (s.forget name).reaches id with
      | true => exact .inl rfl
      | false =>
        refine .inr ?_
        simp [concern, found, claim, reached]
    · refine .inl (reaches_iff.2 ⟨name, item, List.mem_filter.2 ⟨mem, ?_⟩, claim⟩)
      simp [same]

end Session

/-! ## Alive and within reach -/

section

variable {done more : List Deed} {id : ClaimId} {region : Region}

theorem alive_append_refusal {α : Type} {result : Except Error α}
    (h : Alive (done ++ Deed.refusal result) id region) : Alive done id region := by
  unfold Deed.refusal at h
  split at h
  · rw [alive_append_singleton] at h
    simpa using h
  · rwa [List.append_nil] at h

/-- Media that ended where they were made are not alive behind that. -/
theorem alive_append_passing {looks : List (ClaimId × Region)}
    (h : Alive (done ++ Deed.passing looks) id region) : Alive done id region := by
  induction looks generalizing done with
  | nil => rwa [Deed.passing, List.flatMap_nil, List.append_nil] at h
  | cons look rest ih =>
    obtain ⟨other, place⟩ := look
    have split : done ++ Deed.passing ((other, place) :: rest) =
        done ++ [.made other place] ++ [.ended other] ++ Deed.passing rest := by
      simp [Deed.passing]
    rw [split] at h
    have behind := ih h
    rw [alive_append_singleton, alive_append_singleton] at behind
    rcases behind with impossible | ⟨made | ⟨alive, -⟩, lasts⟩
    · cases impossible
    · cases made
      exact absurd rfl lasts
    · exact alive

/-- What a report makes and ends is not alive behind it. -/
theorem Keeper.Passes.alive {α : Type} {keeper : Keeper} {result : Except Error α}
    (h : keeper.Passes result more) (alive : Alive (done ++ more) id region) :
    Alive done id region := by
  obtain ⟨looks, rfl, -⟩ := h
  rw [← List.append_assoc] at alive
  exact alive_append_passing (alive_append_refusal alive)

/-- What is alive behind a step was alive before and is not ended by the step, or the step has kept
it under a name. -/
theorem Session.Accounted.alive {s : Session} {m : Machine} {step : Step}
    (h : s.Accounted m step) (alive : Alive (done ++ (s.perform step).deeds m) id region) :
    (Alive done id region ∧ s.concern step ≠ .ends id) ∨
      ((s.perform step).run m).1.2.reaches id := by
  unfold Accounted at h
  cases concern : s.concern step with
  | makes name other =>
    simp only [concern] at h
    split at h
    · rw [h.2, alive_append_singleton] at alive
      exact .inl ⟨by simpa using alive, nofun⟩
    · obtain ⟨item, answer, made, path, result, own, deeds⟩ := h
      rw [deeds, alive_append_singleton] at alive
      rcases alive with now | ⟨alive, -⟩
      · cases now
        refine .inr ?_
        rw [result]
        refine reaches_iff.2 ⟨name, item, List.mem_cons_self, ?_⟩
        rw [item.claim?_eq, own]
        rfl
      · exact .inl ⟨alive, nofun⟩
  | ends other =>
    simp only [concern] at h
    rw [h, alive_append_singleton] at alive
    rcases alive with impossible | ⟨alive, lasts⟩
    · cases impossible
    · refine .inl ⟨alive, ?_⟩
      rintro ⟨⟩
      exact lasts rfl
  | looks keeper =>
    simp only [concern] at h
    exact .inl ⟨h.alive alive, nofun⟩
  | nothing =>
    simp only [concern] at h
    rw [h, List.append_nil] at alive
    exact .inl ⟨alive, nofun⟩

end

/-! ## Histories of a process -/

namespace World

variable {w : World}

/-- The questions of steps in a row, in order. -/
def moments (w : World) : List Step → List Moment
  | [] => []
  | step :: rest => (w.session.perform step).moments (w.startOf (.step step)) ++
      (w.advance (.step step)).moments rest

/-- The deeds of steps in a row. -/
def deeds (w : World) (steps : List Step) : List Deed := (w.moments steps).filterMap Moment.deed?

/-- Where steps in a row lead. -/
def follow (w : World) (steps : List Step) : World := w.play (steps.map .step)

/-- No step gives a name that stands for something already. -/
def NamesOnce (w : World) : List Step → Prop
  | [] => True
  | step :: rest => (∀ name, step.binds? = some name → w.session.item? name = none) ∧
      (w.advance (.step step)).NamesOnce rest

/-- What holds of the media of a process over its steps. -/
structure Owned (w : World) (steps : List Step) : Prop where
  /-- Every question on the way finds as claimed what is alive, and keeps to it. -/
  lawful : Lawful [] (w.moments steps)
  /-- And so it is at the end. -/
  census : Census (w.deeds steps) (w.follow steps).machine.claims
  /-- Every step on the way does what it is concerned with. -/
  accounted : ∀ before step after, steps = before ++ step :: after →
    (w.follow before).session.Accounted ((w.follow before).startOf (.step step)) step
  /-- No medium that is alive is out of reach. -/
  reached : w.NamesOnce steps → ∀ id region, Alive (w.deeds steps) id region →
    (w.follow steps).session.reaches id

theorem claims_startOf (step : Step) : (w.startOf (.step step)).claims = w.machine.claims := by
  cases step <;> rfl

theorem deeds_cons (step : Step) (rest : List Step) : w.deeds (step :: rest) =
    (w.session.perform step).deeds (w.startOf (.step step)) ++
      (w.advance (.step step)).deeds rest := List.filterMap_append

/-- Step by step, deeds and claims stay in agreement. -/
theorem census_steps {done : List Deed} (h : Census done w.machine.claims) (steps : List Step) :
    Lawful done (w.moments steps) ∧
      Census (done ++ w.deeds steps) (w.follow steps).machine.claims := by
  induction steps generalizing w done with
  | nil => exact ⟨trivial, (List.append_nil done).symm ▸ h⟩
  | cons step rest ih =>
    rw [← claims_startOf step] at h
    obtain ⟨lawful, census⟩ := h.run (w.session.perform step)
    have next : (w.advance (.step step)).machine.claims =
        ((w.session.perform step).run (w.startOf (.step step))).2.claims := by rw [advance_step]
    rw [← next] at census
    obtain ⟨lawful', census'⟩ := ih census
    rw [deeds_cons, ← List.append_assoc]
    exact ⟨lawful_append.2 ⟨lawful, lawful'⟩, census'⟩

/-- Names stand for one item each, and lead to all media that are alive. -/
structure Within (w : World) (done : List Deed) : Prop where
  tidy : w.session.Tidy
  reached : ∀ id region, Alive done id region → w.session.reaches id

/-- A step keeps what is alive within reach, if it binds no name that is bound already. -/
theorem Within.advance {done : List Deed} {step : Step} (h : w.Within done)
    (fresh : ∀ name, step.binds? = some name → w.session.item? name = none) :
    (w.advance (.step step)).Within
      (done ++ (w.session.perform step).deeds (w.startOf (.step step))) := by
  have changes := w.session.changes_perform (w.startOf (.step step)) step
  have next : (w.advance (.step step)).session =
      ((w.session.perform step).run (w.startOf (.step step))).1.2 := by rw [advance_step]
  rw [← next] at changes
  refine ⟨h.tidy.changes fresh changes, ?_⟩
  intro id region alive
  rcases (Session.accounted _ _ _).alive alive with ⟨before, stays⟩ | kept
  · exact (changes.reaches h.tidy (h.reached id region before)).resolve_right stays
  · exact next ▸ kept

theorem Within.follow {done : List Deed} (h : w.Within done) {steps : List Step}
    (once : w.NamesOnce steps) : (w.follow steps).Within (done ++ w.deeds steps) := by
  induction steps generalizing w done with
  | nil => exact (List.append_nil done).symm ▸ h
  | cons step rest ih =>
    rw [deeds_cons, ← List.append_assoc]
    exact ih (h.advance once.1) once.2

/-- At all times the claims of a process are those of its media that are alive, one for each region
at most, whatever its steps are and whatever the device does. -/
theorem regions_owned (env : Environment) (closedCalls : ClosedCalls) (device : Device)
    (draws : List Block) (steps : List Step) :
    (⟨.start env closedCalls, .start device draws⟩ : World).Owned steps := by
  have none : Census [] (⟨.start env closedCalls, .start device draws⟩ : World).machine.claims :=
    .nil
  obtain ⟨lawful, census⟩ := census_steps none steps
  refine ⟨lawful, census, ?_, ?_⟩
  · intro before step after _
    exact Session.accounted _ _ _
  · intro once
    have start : (⟨.start env closedCalls, .start device draws⟩ : World).Within [] :=
      ⟨List.nodup_nil, fun _ _ alive => absurd alive not_alive_nil⟩
    exact (start.follow once).reached

/-- To close a medium again and to drop it takes nothing from the one that has the region since. -/
example : (first.follow [.claimRegion "a" .customer "", .operate "a" .close,
    .claimRegion "b" .customer "", .operate "a" .close, .drop "a"]).machine.claims.isClaimed
      .customer = true := by decide +kernel

end World

end DeviceKeys
