import DeviceKeys.Proofs.Brackets
import DeviceKeys.Proofs.Lockstep
import DeviceKeys.Session

/-!
# A handle in custody

Whoever opened the mailbox file holds a handle, and can do as it likes with it: send requests, run
something under the lock, close the handle and try again if the system refuses, all in an order that
may depend on whatever came back. `Custody` is a run of a program that does nothing else with the
handle, and says what is left of the handle in the end. The body of a lock is such a program too,
with locks and closes of its own, as long as it leaves the handle open.

Whatever the system answers, the calls of such a run have two shapes. The closes fail up to one that
succeeds, behind which there are none (`Life`); and every lock that was granted is given back, in
brackets that do not cross (`Balanced`). Each way to deal with a handle adds a piece that is known
(`Dealt`), which is of both shapes, and pieces in a row are of the same shape again, so that a whole
run is.

The handles of other files are left out: a call does not show which file it was made on. Nor does a
call show that its file is closed, and a custody may go on to make some; a session on a system that
looks at the file does not come to that (`Item.onHandle_of_closed`).
-/

set_option autoImplicit false

namespace DeviceKeys

/-! ## Calls on a handle -/

/-- Neither closes a handle nor has to do with the lock. -/
def Event.IsAside (event : Event) : Prop := event ≠ .close ∧ event ≠ .lock ∧ event ≠ .unlock

/-- Is such a call, or none at all. -/
def Action.IsAside (action : Action) : Prop := ∀ event, action.event? = some event → event.IsAside

namespace Exchange

/-- A close that the system carried out. -/
def closes (x : Exchange) : Bool := x.event = .close ∧ x.outcome.toBool

/-- A lock that the system granted. -/
def locks (x : Exchange) : Bool := x.event = .lock ∧ x.outcome.toBool

def unlocks (x : Exchange) : Bool := x.event = .unlock

theorem failing_of_unasked {xs : List Exchange} (unasked : ∀ x ∈ xs, x.event ≠ .close) :
    ∀ x ∈ xs, x.closes = false :=
  fun x mem => by simp [closes, unasked x mem]

end Exchange

/-! ## Shapes -/

section

variable {xs ys : List Exchange}

/-- Locks that were granted and the unlocks that follow them are brackets. -/
inductive Balanced : List Exchange → Prop
  | nil : Balanced []
  | call {x : Exchange} {rest : List Exchange} (outside : x.event ≠ .lock ∧ x.event ≠ .unlock)
      (behind : Balanced rest) : Balanced (x :: rest)
  | refused (err : CallError) {rest : List Exchange} (behind : Balanced rest) :
      Balanced (⟨.lock, .error err⟩ :: rest)
  | block (value : Block) {body rest : List Exchange} (within : Balanced body)
      (left : Except CallError Block) (behind : Balanced rest) :
      Balanced (⟨.lock, .ok value⟩ :: (body ++ ⟨.unlock, left⟩ :: rest))

namespace Balanced

theorem append (first : Balanced xs) (second : Balanced ys) : Balanced (xs ++ ys) := by
  induction first with
  | nil => exact second
  | call outside _ ih => exact .call outside ih
  | refused err _ ih => exact .refused err ih
  | block value within left _ _ ih =>
    rw [List.cons_append, List.append_assoc, List.cons_append]
    exact .block value within left ih

theorem of_asides (asides : ∀ x ∈ xs, x.event.IsAside) : Balanced xs := by
  induction xs with
  | nil => exact .nil
  | cons x rest ih =>
    rw [List.forall_mem_cons] at asides
    exact .call asides.1.2 (ih asides.2)

/-- There are as many unlocks as locks that were granted. -/
theorem countP_eq (h : Balanced xs) : xs.countP Exchange.unlocks = xs.countP Exchange.locks := by
  induction h with
  | nil => rfl
  | call outside _ ih => simp [Exchange.unlocks, Exchange.locks, outside, ih]
  | refused err _ ih => simp [Exchange.unlocks, Exchange.locks, Except.toBool, ih]
  | block value _ left _ within behind =>
    simp [Exchange.unlocks, Exchange.locks, Except.toBool, within, behind]
    omega

end Balanced

/-- What the calls of a run make of a handle. -/
inductive Handle.Life : Handle → List Exchange → Handle → Prop
  | shut {h : Handle} {xs : List Exchange} (closed : h.isOpen = false)
      (unasked : ∀ x ∈ xs, x.event ≠ .close) : Life h xs h
  | kept {h : Handle} {xs : List Exchange} (opened : h.isOpen = true)
      (failing : ∀ x ∈ xs, x.closes = false) : Life h xs h
  | ended {h : Handle} {before : List Exchange} {x : Exchange} {after : List Exchange}
      (opened : h.isOpen = true) (failing : ∀ y ∈ before, y.closes = false)
      (closed : x.closes = true) (unasked : ∀ y ∈ after, y.event ≠ .close) :
      Life h (before ++ x :: after) { h with isOpen := false }

namespace Handle.Life

variable {h h₁ h₂ : Handle}

theorem append (first : Life h xs h₁) (second : Life h₁ ys h₂) : Life h (xs ++ ys) h₂ := by
  cases first with
  | shut closed unasked =>
    cases second with
    | shut _ unasked' => exact .shut closed (List.forall_mem_append.2 ⟨unasked, unasked'⟩)
    | kept opened _ | ended opened _ _ _ => exact absurd opened (by simp [closed])
  | kept opened failing =>
    cases second with
    | shut closed _ => exact absurd opened (by simp [closed])
    | kept _ failing' => exact .kept opened (List.forall_mem_append.2 ⟨failing, failing'⟩)
    | ended _ failing' closed unasked =>
      rw [← List.append_assoc]
      exact .ended opened (List.forall_mem_append.2 ⟨failing, failing'⟩) closed unasked
  | ended opened failing closed unasked =>
    cases second with
    | shut _ unasked' =>
      rw [List.append_assoc, List.cons_append]
      exact .ended opened failing closed (List.forall_mem_append.2 ⟨unasked, unasked'⟩)
    | kept reopened _ | ended reopened _ _ _ => cases reopened

/-- Without a close a handle stays what it was. -/
theorem of_not_close (unasked : ∀ x ∈ xs, x.event ≠ .close) : Life h xs h := by
  cases state : h.isOpen with
  | false => exact .shut state unasked
  | true => exact .kept state (Exchange.failing_of_unasked unasked)

/-- The handle is open as long as no close succeeded. -/
theorem left_eq (life : Life h xs h₁) (opened : h.isOpen = true) :
    h₁ = { h with isOpen := !xs.any Exchange.closes } := by
  cases life with
  | shut closed _ => exact absurd opened (by simp [closed])
  | kept _ failing =>
    have none : xs.any Exchange.closes = false :=
      List.any_eq_false.2 fun x mem => by simp [failing x mem]
    rw [none, Bool.not_false, ← opened]
  | ended _ _ closed _ => simp [closed]

/-- Behind a close that succeeded the handle is closed, and no further one calls. -/
theorem countP_closes_le (life : Life h xs h₁) : xs.countP Exchange.closes ≤ 1 := by
  have none : ∀ {ys : List Exchange}, (∀ y ∈ ys, y.closes = false) →
      ys.countP Exchange.closes = 0 := fun failing =>
    List.countP_eq_zero.2 fun y mem => by simp [failing y mem]
  cases life with
  | shut _ unasked => simp [none (Exchange.failing_of_unasked unasked)]
  | kept _ failing => simp [none failing]
  | ended _ failing closed unasked =>
    simp [closed, none failing, none (Exchange.failing_of_unasked unasked)]

theorem pairwise (life : Life h xs h₁) :
    xs.Pairwise fun x y => x.closes = true → y.event ≠ .close := by
  have failed : ∀ {ys : List Exchange}, (∀ y ∈ ys, y.closes = false) →
      ys.Pairwise fun x y => x.closes = true → y.event ≠ .close := fun failing =>
    List.pairwise_of_forall_mem_list fun x mem y _ closed => absurd closed (by simp [failing x mem])
  cases life with
  | shut _ unasked => exact failed (Exchange.failing_of_unasked unasked)
  | kept _ failing => exact failed failing
  | ended _ failing closed unasked =>
    refine List.pairwise_append.2 ⟨failed failing, List.pairwise_cons.2 ⟨?_, ?_⟩, ?_⟩
    · exact fun y mem _ => unasked y mem
    · exact failed (Exchange.failing_of_unasked unasked)
    · exact fun x mem y _ closed => absurd closed (by simp [failing x mem])

end Handle.Life

/-- The calls by which a handle is dealt with, piece by piece, and what they leave of it. -/
inductive Handle.Dealt : Handle → List Exchange → Handle → Prop
  | asides {h : Handle} {xs : List Exchange} (spared : ∀ x ∈ xs, x.event.IsAside) : Dealt h xs h
  | failed {h : Handle} (opened : h.isOpen = true) (err : CallError) :
      Dealt h [⟨.close, .error err⟩] h
  | closed {h : Handle} (opened : h.isOpen = true) (value : Block) :
      Dealt h [⟨.close, .ok value⟩] { h with isOpen := false }
  | denied {h : Handle} (err : CallError) : Dealt h [⟨.lock, .error err⟩] h
  | block {h : Handle} {body : List Exchange} (value : Block) (within : Dealt h body h)
      (left : Except CallError Block) :
      Dealt h (⟨.lock, .ok value⟩ :: (body ++ [⟨.unlock, left⟩])) h
  | onward {h h₁ h₂ : Handle} {xs ys : List Exchange} (first : Dealt h xs h₁)
      (second : Dealt h₁ ys h₂) : Dealt h (xs ++ ys) h₂

namespace Handle.Dealt

variable {h h' : Handle}

/-- Each dealing leads the life of the handle on. -/
theorem life (dealt : Dealt h xs h') : Life h xs h' := by
  induction dealt with
  | asides spared => exact .of_not_close fun x mem => (spared x mem).1
  | failed opened err => exact .kept opened (by simp [Exchange.closes, Except.toBool])
  | closed opened value =>
    exact .ended opened (List.forall_mem_nil _) (by simp [Exchange.closes, Except.toBool])
      (List.forall_mem_nil _)
  | denied err => exact .of_not_close (by simp)
  | @block h body value _ left ih =>
    have lock : Life h [⟨.lock, .ok value⟩] h := .of_not_close (by simp)
    have unlock : Life h [⟨.unlock, left⟩] h := .of_not_close (by simp)
    exact lock.append (ih.append unlock)
  | onward _ _ first second => exact first.append second

theorem balanced (dealt : Dealt h xs h') : Balanced xs := by
  induction dealt with
  | asides spared => exact .of_asides spared
  | failed _ err => exact .call (by simp) .nil
  | closed _ value => exact .call (by simp) .nil
  | denied err => exact .refused err .nil
  | block value _ left ih => exact .block value ih left .nil
  | onward _ _ first second => exact first.append second

end Handle.Dealt

end

/-! ## Single dealings -/

namespace Handle

open Program (settle)

variable {ε α : Type} (m : Machine)

/-- To close an open handle takes one call. If the system refuses it, the handle stays open. -/
theorem exchanged_close {h : Handle} (opened : h.isOpen = true) : ∃ outcome,
    h.close.exchanges m = [⟨.close, outcome⟩] ∧
    (h.close.run m).1 = (outcome.map fun _ => (), { h with isOpen := !outcome.toBool }) := by
  refine ⟨(Moment.mk m .close).outcome, ?_, ?_⟩
  · rw [close, if_pos opened, Program.exchanges, Program.excerpt_bind]
    split <;> rfl
  · have called : (call (Program.perform .close)).run.run m =
        ((m.answer .close).1.mapError (.system · none), (m.answer .close).2) :=
      Program.run_bind _ _ _
    obtain ⟨path, isOpen⟩ := h
    cases opened
    rw [close, if_pos rfl, Program.run_bind, called, Moment.outcome, Moment.reply]
    cases (m.answer .close).1 <;> rfl

theorem close_of_closed {h : Handle} (closed : h.isOpen = false) :
    h.close = pure (.ok (), h) := by
  rw [close, closed]
  rfl

/-- A lock is one call, which is granted or refused. -/
theorem exchanged_lock : ∃ outcome, lock.run.exchanges m = [⟨.lock, outcome⟩] ∧
    (lock.run.run m).1 = outcome.map fun _ => () := by
  refine ⟨(Moment.mk m .lock).outcome, rfl, ?_⟩
  have called : lock.run.run m =
      ((m.answer .lock).1.mapError (.system · none), (m.answer .lock).2) :=
    Program.run_bind _ _ _
  rw [called, Moment.outcome, Moment.reply]
  cases (m.answer .lock).1 <;> rfl

theorem exchanged_unlock : ∃ outcome, unlock.run.exchanges m = [⟨.unlock, outcome⟩] ∧
    (unlock.run.run m).1 = outcome.map fun _ => () := by
  refine ⟨(Moment.mk m .unlock).outcome, rfl, ?_⟩
  have called : unlock.run.run m =
      ((m.answer .unlock).1.mapError (.system · none), (m.answer .unlock).2) :=
    Program.run_bind _ _ _
  rw [called, Moment.outcome, Moment.reply]
  cases (m.answer .unlock).1 <;> rfl

/-- What becomes of a body under the lock. -/
structure Enclosed (refused : CallError → ε) (body : Attempt ε α) (m : Machine) : Prop where
  /-- If the lock is refused, nothing else is asked for. -/
  denied : ∀ err, (lock.run.run m).1 = .error err →
    (locked refused body).run.run m = (.error (refused err), (lock.run.run m).2) ∧
    (locked refused body).run.moments m = [⟨m, .lock⟩]
  /-- If it is granted, it is given back once, behind the body and whatever that came to. -/
  granted : (lock.run.run m).1 = .ok () → ∃ value left,
    (locked refused body).run.exchanges m =
      ⟨.lock, .ok value⟩ :: (body.run.exchanges (lock.run.run m).2 ++ [⟨.unlock, left⟩]) ∧
    ((locked refused body).run.run m).1 =
      settle (body.run.run (lock.run.run m).2).1 ((left.map fun _ => ()).mapError refused)

variable (refused : CallError → ε) (body : Attempt ε α)

/-- A lock that is granted is given back behind the body, and a lock that is refused leads to
nothing. -/
theorem enclosed : Enclosed refused body m where
  denied err denied := by
    have every : ∀ {β : Type} (program : Program β),
        program.moments m = program.excerpt some m := fun _ => List.filterMap_some.symm
    constructor
    · rw [locked, Program.run_attempt_bind, Program.run_adapt, denied]
      rfl
    · rw [every, locked, Program.excerpt_attempt_bind, Program.excerpt_adapt, Program.run_adapt,
        denied]
      rfl
  granted granted := by
    obtain ⟨outcome, taken, answer⟩ := exchanged_lock m
    obtain ⟨left, given, back⟩ :=
      exchanged_unlock (body.run.run (lock.run.run m).2).2
    cases outcome with
    | error err =>
      rw [granted] at answer
      cases answer
    | ok value =>
      refine ⟨value, left, ?_, ?_⟩
      · refine (Program.excerpt_attempt_bind _ _ _ m).trans ?_
        rw [Program.excerpt_adapt, Program.run_adapt, granted]
        refine congr (congrArg HAppend.hAppend taken) ?_
        refine (Program.excerpt_ensuring _ _ _ _).trans (congrArg (_ ++ ·) ?_)
        exact (Program.excerpt_adapt _ _ _ _).trans given
      · rw [locked, Program.run_attempt_bind, Program.run_adapt, granted]
        show ((Program.ensuring body (unlock.adapt refused)).run.run _).1 = _
        rw [Program.run_ensuring, Program.run_adapt, back]

theorem exchanges_locked_of_error {err : CallError} (denied : (lock.run.run m).1 = .error err) :
    (locked refused body).run.exchanges m = [⟨.lock, .error err⟩] := by
  obtain ⟨outcome, taken, answer⟩ := exchanged_lock m
  rw [denied] at answer
  cases outcome <;> cases answer
  rw [Program.exchanges, Program.excerpt, ((enclosed m refused body).denied err denied).2]
  exact taken

/-! ## Runs -/

/-- The run of a program that deals with a handle as its holder can, and what it leaves of it. -/
inductive Custody : {α : Type} → Handle → Machine → Program α → Handle → Prop
  /-- A request, a line of the log, and whatever else neither closes nor locks. -/
  | aside {α : Type} {h : Handle} {m : Machine} {program : Program α}
      (spared : ∀ x ∈ program.exchanges m, x.event.IsAside) : Custody h m program h
  /-- A close of what is left of the handle, which is also how a block around it ends. -/
  | close (h : Handle) (m : Machine) : Custody h m h.close (h.close.run m).1.2
  /-- The lock, with a body that is run if it is granted, and that ends with the handle open. -/
  | locked {ε α : Type} {h : Handle} {m : Machine} (refused : CallError → ε) {body : Attempt ε α}
      (opened : h.isOpen = true)
      (within : (lock.run.run m).1 = .ok () → Custody h (lock.run.run m).2 body.run h) :
      Custody h m (locked refused body).run h
  | onward {α β : Type} {h h₁ h₂ : Handle} {m : Machine} {program : Program α}
      {next : α → Program β} (first : Custody h m program h₁)
      (second : Custody h₁ (program.run m).2 (next (program.run m).1) h₂) :
      Custody h m (program >>= next) h₂

namespace Custody

variable {h h' : Handle} {m : Machine} {program : Program α}

/-- What a custody has done is a row of dealings. -/
theorem dealt (custody : Custody h m program h') : Dealt h (program.exchanges m) h' := by
  induction custody with
  | aside spared => exact .asides spared
  | close h m =>
    cases state : h.isOpen with
    | false =>
      rw [close_of_closed state]
      exact .asides (List.forall_mem_nil _)
    | true =>
      obtain ⟨outcome, calls, left⟩ := exchanged_close m state
      rw [calls, left]
      cases outcome with
      | error err =>
        have same : { h with isOpen := !false } = h := by rw [Bool.not_false, ← state]
        exact same.symm ▸ .failed state err
      | ok value => exact .closed state value
  | locked refused _ _ ih =>
    -- The body has its part in the run only if the lock was granted.
    cases answer : (lock.run.run _).1 with
    | error err =>
      rw [exchanges_locked_of_error _ refused _ answer]
      exact .denied err
    | ok _ =>
      obtain ⟨value, left, calls, -⟩ := (enclosed _ refused _).granted answer
      rw [calls]
      exact .block value (ih answer) left
  | onward _ _ first second =>
    rw [Program.exchanges, Program.excerpt_bind]
    exact first.onward second

/-! ### What is done with handles -/

/-- A program that spares the handle's brackets leaves it alone. -/
theorem of_asks (spares : program.Asks Action.IsAside) (h : Handle) (m : Machine) :
    Custody h m program h := by
  refine .aside fun x mem => ?_
  obtain ⟨q, asked, seen⟩ := List.mem_filterMap.1 mem
  obtain ⟨event, happened, rfl⟩ := Option.map_eq_some_iff.1 seen
  exact spares.forall_moments m q asked event happened

theorem send (h : Handle) (m : Machine) (tag : Int) (value : Option Bytes) :
    Custody h m (Handle.send tag value).run h := by
  refine of_asks (asks_send (fun buffer => ?_) tag value) h m
  rintro _ ⟨⟩
  simp [Event.IsAside]

/-- A block that ends with a close, whatever its body came to. -/
theorem closing (refused : CallError → ε) {body : Attempt ε α} (within : Custody h m body.run h) :
    Custody h m (closing refused h body).run (h.close.run (body.run.run m).2).1.2 := by
  have closed : Custody h (body.run.run m).2
      (do return (← h.close).1.mapError refused : Program (Except ε Unit))
      (h.close.run (body.run.run m).2).1.2 :=
    .onward (.close h _) (.of_asks (Program.asks_pure _) _ _)
  refine .onward within (.onward closed ?_)
  split <;> exact .of_asks (Program.asks_pure _) _ _

/-- The value of a region is burned under the lock, in a block that ends with a close. -/
theorem programming (refused : CallError → Error) (opened : h.isOpen = true) (region : Region)
    (value : Block) :
    Custody h m (h.closing refused (Handle.locked refused (Medium.burn region value))).run
      (h.close.run ((Handle.locked refused (Medium.burn region value)).run.run m).2).1.2 := by
  refine .closing refused (.locked refused opened fun _ => .aside ?_)
  rw [Program.exchanges_eq_calls]
  exact (Medium.burnt region value _).pursued.forall_mem (by simp [burning, Event.IsAside])

end Custody

/-! ## The law -/

/-- What holds of a run that has an open handle in custody, whatever the system answers. -/
structure Kept (h : Handle) (m : Machine) (program : Program α) (h' : Handle) : Prop where
  once : (program.exchanges m).countP Exchange.closes ≤ 1
  /-- Behind a close that succeeded, none is called any more. -/
  last : (program.exchanges m).Pairwise fun x y => x.closes = true → y.event ≠ .close
  /-- The handle is open until a close succeeds. -/
  left : h' = { h with isOpen := !(program.exchanges m).any Exchange.closes }
  /-- As long as the handle is open, the next close calls the system, and leaves the handle open if
  the system refuses. -/
  again : h'.isOpen = true → ∀ n, ∃ outcome, h'.close.exchanges n = [⟨.close, outcome⟩] ∧
    (h'.close.run n).1 = (outcome.map fun _ => (), { h' with isOpen := !outcome.toBool })
  shut : h'.isOpen = false → h'.close = pure (.ok (), h')
  balanced : Balanced (program.exchanges m)
  even : (program.exchanges m).countP Exchange.unlocks =
    (program.exchanges m).countP Exchange.locks
  blocks : ∀ {ε β : Type} (refused : CallError → ε) (body : Attempt ε β) (n : Machine),
    Enclosed refused body n

variable {h h' : Handle} {m : Machine} {program : Program α}

/-- From an open handle, every custody keeps to the law. -/
theorem custody_kept (opened : h.isOpen = true) (custody : Custody h m program h') :
    Kept h m program h' where
  once := custody.dealt.life.countP_closes_le
  last := custody.dealt.life.pairwise
  left := custody.dealt.life.left_eq opened
  again stays n := exchanged_close n stays
  shut closed := close_of_closed closed
  balanced := custody.dealt.balanced
  even := custody.dealt.balanced.countP_eq
  blocks refused body n := enclosed n refused body

/-- Reads under the lock, and closes three times whatever came of the read. -/
def readThenClose (h : Handle) : Program (Except CallError Unit × Handle) := do
  let _ ← (locked id (read .customer)).run
  let first ← h.close
  let second ← first.2.close
  second.2.close

theorem Custody.readThenClose (opened : h.isOpen = true) (m : Machine) :
    Custody h m h.readThenClose (h.readThenClose.run m).1.2 := by
  unfold Handle.readThenClose
  rw [Program.run_bind, Program.run_bind, Program.run_bind]
  have reads : ∀ n, Custody h n (read .customer).run h := of_asks (asks_exchange (by
    rintro _ ⟨⟩
    simp [Event.IsAside])) h
  exact .onward (.locked id opened fun _ => reads _)
    (.onward (.close h _) (.onward (.close _ _) (.close _ _)))

/-- The first read and the first close fail: the lock is given back all the same, the second close
calls again, and the third has nothing left to close. -/
theorem custody_kept_stubborn :
    let h : Handle := ⟨Mailbox.standardPath, true⟩
    let m := Machine.start { Device.blank with faults :=
      [⟨.read, none, 0, some 1, .fail 5⟩, ⟨.close, none, 0, some 1, .fail 5⟩] } []
    Kept h m h.readThenClose { h with isOpen := false } ∧
    (h.readThenClose.exchanges m).map Exchange.event =
      [.lock, .request (.read .customer), .unlock, .close, .close] := by
  intro h m
  have left : (h.readThenClose.run m).1.2 = { h with isOpen := false } := by decide +kernel
  have calls : (h.readThenClose.exchanges m).map Exchange.event =
      [.lock, .request (.read .customer), .unlock, .close, .close] := by decide +kernel
  exact ⟨custody_kept rfl (left ▸ Custody.readThenClose rfl m), calls⟩

end Handle

/-- Where the system looks at the file, nothing that is asked of a closed handle comes to a call. -/
theorem Item.onHandle_of_closed (name : String) {h : Handle} (closed : h.isOpen = false)
    (operation : Operation) (m : Machine) :
    ∃ answer, (Item.onHandle .refused name h operation).run m = ((answer, h), m) := by
  cases operation with
  | close =>
    rw [Item.onHandle, Handle.close_of_closed closed]
    exact ⟨_, rfl⟩
  | exchange tag value =>
    cases fine : Handle.checked tag value with
    | error err =>
      simp only [Item.onHandle, Item.callsOnFile, fine, Except.isOk, Except.toBool,
        Bool.false_eq_true, and_false, if_false, Item.onHandle.ask, Handle.send]
      exact ⟨_, rfl⟩
    | ok sent =>
      refine ⟨.error .closedHandle, ?_⟩
      simp [Item.onHandle, Item.callsOnFile, fine, closed, Except.isOk, Except.toBool]
  | lock | unlock =>
    refine ⟨.error .closedHandle, ?_⟩
    simp [Item.onHandle, Item.callsOnFile, closed]
  | _ =>
    simp only [Item.onHandle, Item.callsOnFile, Bool.false_eq_true, and_false, if_false]
    exact ⟨_, rfl⟩

end DeviceKeys
