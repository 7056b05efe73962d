import DeviceKeys.Proofs.Ledger
import DeviceKeys.Proofs.Runs

/-!
# Excerpts of a run

A law about what a run does, and not about what it gives, picks some of the questions of the run and
says of each what matters to it: of a call, say, the event and what it came to. Such an excerpt is
computed here along the `do` notation, whatever is picked: the excerpt of two attempts in a row is
that of the first and, if it gave a value, that of the second where the first ended. Results that
are there already and changes of an error ask nothing, so they add nothing.

The exchanges of a run, its calls with their outcomes, are the excerpt that an observer of the
device can make. `events_run_exchanges` ties them to the record that the machine keeps.
-/

set_option autoImplicit false

namespace DeviceKeys

namespace Program

variable {α β ε ε' κ : Type}

/-- What is picked of the questions of a run, in order. -/
def excerpt (pick : Moment → Option κ) (program : Program α) (m : Machine) : List κ :=
  (program.moments m).filterMap pick

variable (pick : Moment → Option κ)

/-! ## Programs -/

@[simp] theorem excerpt_pure (value : α) (m : Machine) :
    (pure value : Program α).excerpt pick m = [] := rfl

@[simp] theorem excerpt_perform (action : Action) (m : Machine) :
    (perform action).excerpt pick m = (pick ⟨m, action⟩).toList := by
  show [(⟨m, action⟩ : Moment)].filterMap pick = _
  cases picked : pick ⟨m, action⟩ <;> simp [picked]

/-- What is picked of a sequence is what is picked of its parts, on the machines on which they
run. -/
@[simp] theorem excerpt_bind (program : Program α) (next : α → Program β) (m : Machine) :
    (program >>= next).excerpt pick m =
      program.excerpt pick m ++ (next (program.run m).1).excerpt pick (program.run m).2 := by
  rw [excerpt, moments_bind, List.filterMap_append]
  rfl

@[simp] theorem excerpt_map (f : α → β) (program : Program α) (m : Machine) :
    (f <$> program).excerpt pick m = program.excerpt pick m := by
  rw [← bind_pure_comp, excerpt_bind]
  exact List.append_nil _

/-! ## Attempts -/

/-- The second attempt has a part in the excerpt if the first gave a value. -/
theorem excerpt_attempt_bind (x : Attempt ε α) (next : α → Attempt ε β) (m : Machine) :
    (x >>= next).run.excerpt pick m = x.run.excerpt pick m ++ match (x.run.run m).1 with
      | .ok value => (next value).run.excerpt pick (x.run.run m).2
      | .error _ => [] := by
  rw [ExceptT.run_bind, excerpt_bind]
  cases (x.run.run m).1 <;> rfl

/-- A second attempt of which nothing is picked leaves the excerpt alone. -/
theorem excerpt_bind_silent {x : Attempt ε α} {next : α → Attempt ε β}
    (silent : ∀ value m, (next value).run.excerpt pick m = []) (m : Machine) :
    (x >>= next).run.excerpt pick m = x.run.excerpt pick m := by
  rw [excerpt_attempt_bind]
  cases (x.run.run m).1 with
  | ok value => simp [silent]
  | error err => simp

@[simp] theorem excerpt_lift (program : Program α) (m : Machine) :
    (liftM program : Attempt ε α).run.excerpt pick m = program.excerpt pick m :=
  excerpt_map _ _ _ _

/-- A program that is lifted gives a value in any case. -/
@[simp] theorem excerpt_lift_bind (program : Program α) (next : α → Attempt ε β) (m : Machine) :
    (liftM program >>= next).run.excerpt pick m =
      program.excerpt pick m ++ (next (program.run m).1).run.excerpt pick (program.run m).2 := by
  rw [excerpt_attempt_bind, excerpt_lift, run_lift]

@[simp] theorem excerpt_attempt_map (f : α → β) (x : Attempt ε α) (m : Machine) :
    (f <$> x).run.excerpt pick m = x.run.excerpt pick m := by
  rw [ExceptT.run_map]
  exact excerpt_map _ _ _ _

@[simp] theorem excerpt_adapt (f : ε → ε') (x : Attempt ε α) (m : Machine) :
    (x.adapt f).run.excerpt pick m = x.run.excerpt pick m := excerpt_map _ _ _ _

@[simp] theorem excerpt_outcome (x : Attempt ε α) (m : Machine) :
    (outcome x : Attempt ε' (Except ε α)).run.excerpt pick m = x.run.excerpt pick m :=
  excerpt_map _ _ _ _

/-- The clean-up has its part in the excerpt whatever the body came to. -/
@[simp] theorem excerpt_ensuring (x : Attempt ε α) (cleanup : Attempt ε Unit) (m : Machine) :
    (ensuring x cleanup).run.excerpt pick m =
      x.run.excerpt pick m ++ cleanup.run.excerpt pick (x.run.run m).2 := by
  refine (excerpt_bind pick _ _ m).trans (congrArg (x.run.excerpt pick m ++ ·) ?_)
  refine (excerpt_bind pick _ _ _).trans ?_
  cases (cleanup.run.run (x.run.run m).2).1 <;> exact List.append_nil _

end Program

/-! ## Exchanges -/

/-- A call and what it came to. -/
structure Exchange where
  event : Event
  outcome : Except CallError Block

namespace Moment

variable {q : Moment}

/-- A question as an exchange, if it is a call. -/
def exchange? (q : Moment) : Option Exchange := q.event?.map fun event => ⟨event, q.outcome⟩

theorem exchange?_of_event? {event : Event} (h : q.event? = some event) :
    q.exchange? = some ⟨event, q.outcome⟩ := by
  rw [exchange?, h]
  rfl

theorem Makes.exchange?_of_error {event : Event} {err : CallError}
    (h : q.Makes event (.error err)) : q.exchange? = some ⟨event, .error err⟩ := by
  obtain ⟨happened, failed⟩ := h
  rw [exchange?_of_event? happened]
  unfold done at failed
  cases outcome : q.outcome <;> rw [outcome] at failed <;> cases failed
  rfl

theorem Makes.exchange?_of_ok {event : Event} (h : q.Makes event (.ok ())) :
    ∃ value, q.exchange? = some ⟨event, .ok value⟩ := by
  obtain ⟨happened, succeeded⟩ := h
  rw [exchange?_of_event? happened]
  unfold done at succeeded
  cases outcome : q.outcome <;> rw [outcome] at succeeded <;> cases succeeded
  exact ⟨_, rfl⟩

theorem Reads.exchange? {region : Region} {result : Except CallError Block}
    (h : q.Reads region result) : q.exchange? = some ⟨.request (.read region), result⟩ := by
  rw [exchange?_of_event? h.1, h.2]

end Moment

namespace Program

variable {α : Type}

/-- The calls of a run in order, each with what it came to. -/
abbrev exchanges (program : Program α) (m : Machine) : List Exchange :=
  program.excerpt Moment.exchange? m

/-- The exchanges are the calls of the ledger, seen with their outcomes. -/
theorem exchanges_eq_calls (program : Program α) (m : Machine) :
    program.exchanges m = (program.calls m).filterMap Moment.exchange? := by
  have same : Moment.exchange? = fun q => if q.isCall then q.exchange? else none := by
    funext q
    cases h : q.event? <;> simp [Moment.isCall, Moment.exchange?, h]
  rw [exchanges, excerpt, calls, List.filterMap_filter, ← same]

/-- What the machine records of a run are the calls of its exchanges. -/
theorem events_run_exchanges (program : Program α) (m : Machine) :
    (program.run m).2.events = m.events ++ (program.exchanges m).map Exchange.event := by
  have same : (fun q : Moment => q.exchange?.map Exchange.event) = Moment.event? := by
    funext q
    cases h : q.event? <;> simp [Moment.exchange?, h]
  rw [events_run, exchanges, excerpt, List.map_filterMap, same]
  rfl

end Program

end DeviceKeys
