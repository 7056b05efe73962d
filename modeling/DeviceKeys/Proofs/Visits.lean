import DeviceKeys.Handle
import DeviceKeys.Proofs.Ledger

/-!
# Visits to the device

The rules of handles under the ledger: which call each operation makes, and that its result is
what the call came to. From them follows the shape of a visit, which is every visit there is: `open`
alone where the file does not open, and otherwise `open`, one read and `close`, where the close
decides if it fails and the read if it does not.
-/

set_option autoImplicit false

namespace DeviceKeys

open Program (settle)

namespace Handle

variable {α ε σ : Type} {l : Ledger}

/-! ## Rules

Each rule hands the proof a call `q` that is known by its event, and forgets the machine: what the
calls of a run have to do with each other is said once, by `linked_calls`. -/

theorem meets_call {c : Contract σ} {answer : Program (Except Nat α)}
    {post : Except CallError α → σ → Prop} {s : σ} : (call answer).run.Meets c post s ↔
      answer.Meets c (fun result t => post (result.mapError (.system · none)) t) s :=
  Program.meets_bind

theorem meets_openAt {path : String} {post : Except CallError Handle → Ledger → Prop}
    (next : ∀ q m, q.event? = some (.openAt path) →
      post (q.done.map fun _ => ⟨path, true⟩) ⟨m, l.calls ++ [q]⟩) :
    (openAt path).run.Meets Ledger.contract post l := by
  refine Program.meets_bind.2 ((Ledger.meets_perform (.openAt path)).2 ?_)
  have h := next ⟨l.machine, .openAt path⟩ (l.machine.answer (.openAt path)).2 rfl
  unfold Moment.done Moment.outcome Moment.reply at h
  cases hr : (l.machine.answer (.openAt path)).1 <;> rw [hr] at h <;> exact h

theorem meets_lock {post : Except CallError Unit → Ledger → Prop}
    (next : ∀ q m, q.event? = some .lock → post q.done ⟨m, l.calls ++ [q]⟩) :
    lock.run.Meets Ledger.contract post l := by
  refine meets_call.2 ((Ledger.meets_perform .lock).2 ?_)
  have h := next ⟨l.machine, .lock⟩ (l.machine.answer .lock).2 rfl
  unfold Moment.done Moment.outcome Moment.reply at h
  cases hr : (l.machine.answer .lock).1 <;> rw [hr] at h <;> exact h

theorem meets_unlock {post : Except CallError Unit → Ledger → Prop}
    (next : ∀ q m, q.event? = some .unlock → post q.done ⟨m, l.calls ++ [q]⟩) :
    unlock.run.Meets Ledger.contract post l := by
  refine meets_call.2 ((Ledger.meets_perform .unlock).2 ?_)
  have h := next ⟨l.machine, .unlock⟩ (l.machine.answer .unlock).2 rfl
  unfold Moment.done Moment.outcome Moment.reply at h
  cases hr : (l.machine.answer .unlock).1 <;> rw [hr] at h <;> exact h

/-- The close at the end of a bracket. -/
theorem meets_close {refused : CallError → ε} {path : String} {post : Except ε Unit → Ledger → Prop}
    (next : ∀ q m, q.event? = some .close → post (q.done.mapError refused) ⟨m, l.calls ++ [q]⟩) :
    (.mk do return (← close ⟨path, true⟩).1.mapError refused : Attempt ε Unit).run.Meets
      Ledger.contract post l := by
  refine Program.meets_bind.2 (Program.meets_bind.2
    (meets_call.2 ((Ledger.meets_perform .close).2 ?_)))
  have h := next ⟨l.machine, .close⟩ (l.machine.answer .close).2 rfl
  unfold Moment.done Moment.outcome Moment.reply at h
  cases hr : (l.machine.answer .close).1 <;> rw [hr] at h <;> exact h

/-- One call, whose outcome says how the request went. -/
theorem meets_exchange {tag : Nat} {value : Option Block} (word : tag < UInt32.size)
    {post : Except CallError Block → Ledger → Prop}
    (next : ∀ q m, q.event? = some (.request (.ofBuffer (.request (.ofNat tag) value))) →
      post q.outcome ⟨m, l.calls ++ [q]⟩) :
    (exchange tag value).run.Meets Ledger.contract post l := by
  have tagged : (UInt32.ofNat tag).toNat = tag := UInt32.toNat_ofNat_of_lt' word
  refine Program.meets_run_bind.2
    (meets_call.2 ((Ledger.meets_perform (.transfer (.request (.ofNat tag) value))).2 ?_))
  have h := next ⟨l.machine, .transfer (.request (.ofNat tag) value)⟩
    (l.machine.answer (.transfer (.request (.ofNat tag) value))).2 rfl
  unfold Moment.outcome Moment.reply at h
  cases hr : (l.machine.answer (.transfer (.request (.ofNat tag) value))).1 with
  | error errno => rw [hr] at h; exact h
  | ok answer =>
    rw [hr] at h
    by_cases hc : answer.code = Mailbox.success
    · simp only [Action.outcome, if_pos hc] at h
      simp only [mapError_ok, if_pos hc]
      exact h
    · simp only [Action.outcome, if_neg hc, Mailbox.Buffer.tag_request, tagged] at h
      simp only [mapError_ok, if_neg hc]
      exact h

theorem meets_read {region : Region} {post : Except CallError Block → Ledger → Prop}
    (next : ∀ q m, q.event? = some (.request (.read region)) →
      post q.outcome ⟨m, l.calls ++ [q]⟩) :
    (read region).run.Meets Ledger.contract post l := by
  refine meets_exchange (by cases region <;> decide) ?_
  rw [Request.ofBuffer_read]
  exact next

theorem meets_write {region : Region} {value : Block}
    {post : Except CallError Block → Ledger → Prop}
    (next : ∀ q m, q.event? = some (.request (.write region value)) →
      post q.outcome ⟨m, l.calls ++ [q]⟩) :
    (write region value).run.Meets Ledger.contract post l := by
  refine meets_exchange (by cases region <;> decide) ?_
  rw [Request.ofBuffer_write]
  exact next

/-- The rule of a bracket around an open handle. -/
theorem meets_closing {refused : CallError → ε} {path : String} {body : Attempt ε α}
    {post : Except ε α → Ledger → Prop}
    (next : body.run.Meets Ledger.contract (fun result t => ∀ q m, q.event? = some .close →
      post (settle result (q.done.mapError refused)) ⟨m, t.calls ++ [q]⟩) l) :
    (closing refused ⟨path, true⟩ body).run.Meets Ledger.contract post l :=
  Program.meets_ensuring.2 (next.mono fun _ _ closed => meets_close closed)

/-- The rule of a bracket under the lock, whose body runs only if the lock is granted. -/
theorem meets_locked {refused : CallError → ε} {body : Attempt ε α}
    {post : Except ε α → Ledger → Prop}
    (denied : ∀ q m err, q.event? = some .lock → q.done = .error err →
      post (.error (refused err)) ⟨m, l.calls ++ [q]⟩)
    (granted : ∀ q m, q.event? = some .lock → q.done = .ok () →
      body.run.Meets Ledger.contract (fun result t => ∀ u m, u.event? = some .unlock →
        post (settle result (u.done.mapError refused)) ⟨m, t.calls ++ [u]⟩)
          ⟨m, l.calls ++ [q]⟩) :
    (locked refused body).run.Meets Ledger.contract post l := by
  refine Program.meets_run_bind.2 (Program.meets_run_adapt.2 (meets_lock ?_))
  intro q m locks
  cases h : q.done with
  | error err => exact denied q m err locks h
  | ok _ =>
    refine Program.meets_ensuring.2 ((granted q m locks h).mono ?_)
    intro result t released
    exact Program.meets_run_adapt.2 (meets_unlock released)

/-! ## Visits -/

/-- The result of a visit and its calls. -/
inductive Visited (region : Region) (path : String) : Except CallError Block → List Moment → Prop
  | unopened {o : Moment} {err : CallError} (opens : o.Makes (.openAt path) (.error err)) :
      Visited region path (.error err) [o]
  | bracketed {o r c : Moment} {result : Except CallError Block} {closed : Except CallError Unit}
      (opens : o.Makes (.openAt path) (.ok ())) (reads : r.Reads region result)
      (closes : c.Makes .close closed) : Visited region path (settle result closed) [o, r, c]

theorem visited (region : Region) (path : String) (m : Machine) :
    Visited region path ((visit region path).run.run m).1 ((visit region path).run.calls m) := by
  refine Program.calls_run_of_meets (Program.meets_run_bind.2 (meets_openAt ?_))
  intro o _ opens
  cases opened : o.done with
  | error err => exact .unopened ⟨opens, opened⟩
  | ok _ =>
    refine meets_closing (meets_read ?_)
    intro r _ reads c _ closes
    have same : ∀ result : Except CallError Unit, result.mapError id = result := by
      rintro (_ | _) <;> rfl
    rw [same]
    exact .bracketed ⟨opens, opened⟩ ⟨reads, rfl⟩ ⟨closes, rfl⟩

/-- A visit neither writes nor draws. -/
theorem Visited.plain {region : Region} {path : String} {seen : Except CallError Block}
    {calls : List Moment} (h : Visited region path seen calls) :
    calls.filterMap Moment.written? = [] ∧ calls.filterMap Moment.drawn? = [] := by
  cases h with
  | unopened opens => simp [Moment.written?, Moment.drawn?, Event.written?, opens.1]
  | bracketed opens reads closes =>
    simp [Moment.written?, Moment.drawn?, Event.written?, opens.1, reads.1, closes.1]

end Handle

end DeviceKeys
