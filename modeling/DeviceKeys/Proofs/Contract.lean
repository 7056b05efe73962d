import DeviceKeys.Program

/-!
# Contracts of programs

A law about a program speaks of the questions it asks and of what it makes of the answers. Who
answers differs from law to law: one machine from the first question to the last, several processes
that take turns, or nobody in particular. A `Contract` says as much about the surroundings as a law
needs, over states that the law chooses: what may be asked in a state, what can be answered, and
which state that leads to.

`Program.Meets` is the weakest precondition of a program under a contract: every question on every
path is allowed, and every result satisfies the postcondition. It is computed along the tree: for a
plain result it is the postcondition by definition, and each other construction of the `do` notation
has one rule here, stated as an equivalence. A contract of a function is then proved by rewriting
with the rules of what it calls, and no proof opens the tree itself.
-/

set_option autoImplicit false

namespace DeviceKeys

/-- What can happen between a program and its surroundings. -/
structure Contract (σ : Type) where
  /-- Whether the program keeps to the contract by asking this. -/
  allows : σ → Action → Prop
  /-- Whether the surroundings can answer so, and leave the second state. -/
  answers : σ → (action : Action) → action.Reply → σ → Prop

/-! ## Results -/

section

variable {α ε ε' : Type}

/-- Results can be compared, so that a run on a given machine can be looked at. -/
instance decidableEqResult [DecidableEq ε] [DecidableEq α] : DecidableEq (Except ε α)
  | .ok a, .ok b => decidable_of_iff (a = b) ⟨congrArg Except.ok, Except.ok.inj⟩
  | .error a, .error b => decidable_of_iff (a = b) ⟨congrArg Except.error, Except.error.inj⟩
  | .ok _, .error _ => isFalse nofun
  | .error _, .ok _ => isFalse nofun

@[simp] theorem mapError_ok (f : ε → ε') (value : α) :
    (Except.ok value).mapError f = .ok value := rfl

@[simp] theorem mapError_error (f : ε → ε') (err : ε) :
    (Except.error err : Except ε α).mapError f = .error (f err) := rfl

end

namespace Program

variable {σ α β ε ε' : Type} {c : Contract σ}

/-- Every question that is reached from a state is allowed, and every result satisfies `post`. -/
def Meets (c : Contract σ) (post : α → σ → Prop) : Program α → σ → Prop
  | .done value, s => post value s
  | .ask action next, s =>
    c.allows s action ∧ ∀ reply t, c.answers s action reply t → (next reply).Meets c post t

/-! ## Rules for programs -/

/-- A question has to be allowed, and every answer to it has to be borne. -/
theorem meets_perform (action : Action) {post : action.Reply → σ → Prop} {s : σ} :
    (perform action).Meets c post s ↔
      c.allows s action ∧ ∀ reply t, c.answers s action reply t → post reply t := Iff.rfl

/-- The precondition of a sequence is that of its first program, with that of the second one for a
postcondition. -/
@[simp] theorem meets_bind {program : Program α} {next : α → Program β} {post : β → σ → Prop}
    {s : σ} : (program >>= next).Meets c post s ↔
      program.Meets c (fun value t => (next value).Meets c post t) s := by
  induction program generalizing s with
  | done value => rfl
  | ask action rest ih =>
    exact and_congr Iff.rfl (forall_congr' fun reply => forall_congr' fun t =>
      imp_congr Iff.rfl (ih reply))

@[simp] theorem meets_map {program : Program α} {f : α → β} {post : β → σ → Prop} {s : σ} :
    (f <$> program).Meets c post s ↔ program.Meets c (fun value t => post (f value) t) s := by
  rw [← bind_pure_comp]
  exact meets_bind

/-- The rule of consequence. -/
theorem Meets.mono {program : Program α} {post post' : α → σ → Prop} {s : σ}
    (h : program.Meets c post s) (weaker : ∀ value t, post value t → post' value t) :
    program.Meets c post' s := by
  induction program generalizing s with
  | done value => exact weaker value s h
  | ask action rest ih => exact ⟨h.1, fun reply t answered => ih reply (h.2 reply t answered)⟩

/-! ## Rules for programs that can fail -/

/-- An attempt that fails does not come to its second part. -/
@[simp] theorem meets_run_bind {x : Attempt ε α} {next : α → Attempt ε β}
    {post : Except ε β → σ → Prop} {s : σ} : (x >>= next).run.Meets c post s ↔
      x.run.Meets c (fun result t => match result with
        | .ok value => (next value).run.Meets c post t
        | .error err => post (.error err) t) s := by
  rw [ExceptT.run_bind, meets_bind]
  constructor <;> intro h <;> refine h.mono fun result t => ?_ <;> cases result <;> exact id

@[simp] theorem meets_run_lift {program : Program α} {post : Except ε α → σ → Prop} {s : σ} :
    (liftM program : Attempt ε α).run.Meets c post s ↔
      program.Meets c (fun value t => post (.ok value) t) s := meets_map

@[simp] theorem meets_run_adapt {x : Attempt ε α} {f : ε → ε'} {post : Except ε' α → σ → Prop}
    {s : σ} : (ExceptT.adapt f x).run.Meets c post s ↔
      x.run.Meets c (fun result t => post (result.mapError f) t) s := meets_map

@[simp] theorem meets_outcome {x : Attempt ε α} {post : Except ε' (Except ε α) → σ → Prop} {s : σ} :
    (outcome x : Attempt ε' (Except ε α)).run.Meets c post s ↔
      x.run.Meets c (fun result t => post (.ok result) t) s := meets_map

/-- What is left of a result after a clean-up, whose failure takes its place. -/
def settle (result : Except ε α) (cleanup : Except ε Unit) : Except ε α :=
  match cleanup with
  | .ok () => result
  | .error err => .error err

theorem settle_eq_ok {result : Except ε α} {cleanup : Except ε Unit} {value : α} :
    settle result cleanup = .ok value ↔ result = .ok value ∧ cleanup = .ok () := by
  rcases cleanup with _ | ⟨⟨⟩⟩ <;> simp [settle]

/-- A clean-up runs behind every result, in the state that the body left. -/
@[simp] theorem meets_ensuring {x : Attempt ε α} {cleanup : Attempt ε Unit}
    {post : Except ε α → σ → Prop} {s : σ} : (ensuring x cleanup).run.Meets c post s ↔
      x.run.Meets c (fun result t =>
        cleanup.run.Meets c (fun cleaned u => post (settle result cleaned) u) t) s := by
  refine meets_bind.trans ?_
  constructor <;> intro h <;> refine h.mono fun result t h' => ?_
  · refine (meets_bind.1 h').mono ?_
    intro cleaned u
    cases cleaned <;> exact id
  · refine meets_bind.2 (h'.mono ?_)
    intro cleaned u
    cases cleaned <;> exact id

end Program

end DeviceKeys
