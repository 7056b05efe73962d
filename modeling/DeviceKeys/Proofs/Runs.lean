import DeviceKeys.Handle
import DeviceKeys.Machine
import DeviceKeys.Proofs.Contract

/-!
# Runs of attempts

What a run of an attempt comes to, for each construction of the `do` notation: its result and the
machine that it leaves, in terms of the runs of its parts. Together with `Program.run_bind` these
equations carry out a program step by step wherever the answers are known, and take a result apart
where only the result is known (`run_bind_eq_ok`, `run_bind_eq_error`).
-/

set_option autoImplicit false

namespace DeviceKeys

namespace Program

variable {α β ε ε' : Type} {m : Machine}

@[simp] theorem run_lift (program : Program α) (m : Machine) :
    (liftM program : Attempt ε α).run.run m = (.ok (program.run m).1, (program.run m).2) := by
  have mapped : (liftM program : Attempt ε α).run = Except.ok <$> program := rfl
  rw [mapped, ← bind_pure_comp, run_bind]
  rfl

/-- The second attempt runs where the first ended, if that gave a value. -/
theorem run_attempt_bind (x : Attempt ε α) (next : α → Attempt ε β) (m : Machine) :
    (x >>= next).run.run m = match (x.run.run m).1 with
      | .ok value => (next value).run.run (x.run.run m).2
      | .error err => (.error err, (x.run.run m).2) := by
  rw [ExceptT.run_bind, run_bind]
  cases (x.run.run m).1 <;> rfl

@[simp] theorem run_attempt_map (f : α → β) (x : Attempt ε α) (m : Machine) :
    (f <$> x).run.run m = ((x.run.run m).1.map f, (x.run.run m).2) := by
  rw [ExceptT.run_map, ← bind_pure_comp, run_bind]
  rfl

@[simp] theorem run_adapt (f : ε → ε') (x : Attempt ε α) (m : Machine) :
    (x.adapt f).run.run m = ((x.run.run m).1.mapError f, (x.run.run m).2) := by
  have mapped : (x.adapt f).run = Except.mapError f <$> x.run := rfl
  rw [mapped, ← bind_pure_comp, run_bind]
  rfl

@[simp] theorem run_run_outcome (x : Attempt ε α) (m : Machine) :
    (outcome x : Attempt ε' (Except ε α)).run.run m = (.ok (x.run.run m).1, (x.run.run m).2) := by
  rw [run_outcome, ← bind_pure_comp, run_bind]
  rfl

/-- The clean-up runs where the body ended, and its failure takes the place of any result. -/
@[simp] theorem run_ensuring (x : Attempt ε α) (cleanup : Attempt ε Unit) (m : Machine) :
    (ensuring x cleanup).run.run m =
      (settle (x.run.run m).1 (cleanup.run.run (x.run.run m).2).1,
        (cleanup.run.run (x.run.run m).2).2) := by
  have unfolded : (ensuring x cleanup).run = x.run >>= fun result => cleanup.run >>= fun cleaned =>
      pure (settle result cleaned) := by
    refine congrArg (x.run >>= ·) (funext fun result => congrArg (cleanup.run >>= ·) ?_)
    funext cleaned
    cases cleaned <;> rfl
  rw [unfolded, run_bind, run_bind]
  rfl

/-- A value at the end is a value of each part. -/
theorem run_bind_eq_ok {x : Attempt ε α} {next : α → Attempt ε β} {value : β}
    (h : ((x >>= next).run.run m).1 = .ok value) : ∃ first, (x.run.run m).1 = .ok first ∧
      ((next first).run.run (x.run.run m).2).1 = .ok value := by
  rw [run_attempt_bind] at h
  cases result : (x.run.run m).1 with
  | ok first =>
    rw [result] at h
    exact ⟨first, rfl, h⟩
  | error err =>
    rw [result] at h
    cases h

/-- A value of a map is the image of a value. -/
theorem run_map_eq_ok {f : α → β} {x : Attempt ε α} {value : β}
    (h : ((f <$> x).run.run m).1 = .ok value) :
    ∃ first, (x.run.run m).1 = .ok first ∧ f first = value := by
  rw [run_attempt_map] at h
  cases result : (x.run.run m).1 with
  | ok first =>
    rw [result] at h
    exact ⟨first, rfl, Except.ok.inj h⟩
  | error err =>
    rw [result] at h
    cases h

/-- A failure is the failure of one of the parts. -/
theorem run_bind_eq_error {x : Attempt ε α} {next : α → Attempt ε β} {err : ε}
    (h : ((x >>= next).run.run m).1 = .error err) : (x.run.run m).1 = .error err ∨
      ∃ first, (x.run.run m).1 = .ok first ∧
        ((next first).run.run (x.run.run m).2).1 = .error err := by
  rw [run_attempt_bind] at h
  cases result : (x.run.run m).1 with
  | ok first =>
    rw [result] at h
    exact .inr ⟨first, rfl, h⟩
  | error failed =>
    rw [result] at h
    cases h
    exact .inl rfl

end Program

/-! ## Requests -/

namespace Handle

/-- What the answer to a request comes to. -/
def received (tag : Nat) : Except Nat Mailbox.Buffer → Except CallError Block
  | .error errno => .error (.system errno none)
  | .ok answer =>
    if answer.code = Mailbox.success then .ok answer.value
    else .error (.rejected tag answer.code.toNat)

theorem run_exchange (tag : Nat) (value : Option Block) (m : Machine) :
    (exchange tag value).run.run m =
      (received tag (m.answer (.transfer (.request (.ofNat tag) value))).1,
        (m.answer (.transfer (.request (.ofNat tag) value))).2) := by
  have called : (call (Program.perform (.transfer (.request (.ofNat tag) value)))).run.run m =
      ((m.answer (.transfer (.request (.ofNat tag) value))).1.mapError (.system · none),
        (m.answer (.transfer (.request (.ofNat tag) value))).2) :=
    Program.run_bind _ _ _
  rw [exchange, Program.run_attempt_bind, called]
  cases (m.answer (.transfer (.request (.ofNat tag) value))).1 with
  | error errno => rfl
  | ok answer =>
    simp only [mapError_ok, received]
    split <;> rfl

end Handle

end DeviceKeys
