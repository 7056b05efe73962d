import DeviceKeys.Machine
import DeviceKeys.Proofs.Contract

/-!
# Ledgers

The events of a machine say which calls were made; a law also asks what the device was like when a
call was made, and what came of it. Both are in the ledger of a run: every question that the program
put to its surroundings, with the machine to which it was put (`Program.moments`), and of these the
ones that are calls (`Program.calls`). Nothing is stored that the machine does not give: the answer
of a question, and the machine that it leaves, are computed from the machine itself.

`meets_ledger` turns a statement about the ledger and the result of a run into a contract, so that
it can be proved by the rules of contracts. `linked_calls` says that nothing but a call touches the
device, and `events_run` that the ledger is the machine's own record.
-/

set_option autoImplicit false

namespace DeviceKeys

/-! ## Questions as they are put -/

/-- What an observer of the machine sees of a question. -/
def Action.event? : Action → Option Event
  | .openAt path => some (.openAt path)
  | .close => some .close
  | .lock => some .lock
  | .unlock => some .unlock
  | .transfer buffer => some (.request (.ofBuffer buffer))
  | .draw => some .random
  | .fileExists _ | .log _ | .claim _ | .release _ => none

/-- What an answer comes to: the failure of the call, or the value that it brings. A call that
brings none is taken to bring zeros. -/
def Action.outcome : (action : Action) → action.Reply → Except CallError Block
  | .openAt path, .error errno => .error (.system errno (some path))
  | .close, .error errno => .error (.system errno none)
  | .lock, .error errno => .error (.system errno none)
  | .unlock, .error errno => .error (.system errno none)
  | .transfer _, .error errno => .error (.system errno none)
  | .transfer buffer, .ok answer =>
    if answer.code = Mailbox.success then .ok answer.value
    else .error (.rejected buffer.tag.toNat answer.code.toNat)
  | .draw, value => .ok value
  | _, _ => .ok Block.zero

/-- The region that a call is to write, and the value. -/
def Event.written? : Event → Option (Region × Block)
  | .request (.write region value) => some (region, value)
  | _ => none

/-- A question together with the machine to which it is put. -/
structure Moment where
  machine : Machine
  action : Action

namespace Moment

def reply (q : Moment) : q.action.Reply := (q.machine.answer q.action).1

/-- The machine that the question leaves. -/
def after (q : Moment) : Machine := (q.machine.answer q.action).2

def event? (q : Moment) : Option Event := q.action.event?

def isCall (q : Moment) : Bool := q.event?.isSome

def outcome (q : Moment) : Except CallError Block := q.action.outcome q.reply

/-- Whether a call failed, apart from what it brings. -/
def done (q : Moment) : Except CallError Unit := q.outcome.map fun _ => ()

/-- The call was this one, and came to this. -/
def Makes (q : Moment) (event : Event) (result : Except CallError Unit) : Prop :=
  q.event? = some event ∧ q.done = result

/-- The call read a region, and came to this. -/
def Reads (q : Moment) (region : Region) (result : Except CallError Block) : Prop :=
  q.event? = some (.request (.read region)) ∧ q.outcome = result

def written? (q : Moment) : Option (Region × Block) := q.event?.bind Event.written?

/-- The value that a random draw brings. -/
def drawn? (q : Moment) : Option Block :=
  if q.event? = some .random then q.outcome.toOption else none

variable {q : Moment}

theorem written?_eq_some {region : Region} {value : Block} :
    q.written? = some (region, value) ↔ q.event? = some (.request (.write region value)) := by
  rw [written?, Option.bind_eq_some_iff]
  constructor
  · rintro ⟨event, happened, writes⟩
    rw [happened]
    unfold Event.written? at writes
    split at writes <;> cases writes
    rfl
  · exact fun happened => ⟨_, happened, rfl⟩

theorem written?_of_event? {event : Event} (h : q.event? = some event) :
    q.written? = event.written? := by
  rw [written?, h, Option.bind_some]

theorem Reads.written? {region : Region} {result : Except CallError Block}
    (h : q.Reads region result) : q.written? = none := written?_of_event? h.1

end Moment

namespace Program

variable {α β : Type}

/-- All questions that a run asks, in order. -/
def moments : Program α → Machine → List Moment
  | .done _, _ => []
  | .ask action next, m => ⟨m, action⟩ :: (next (m.answer action).1).moments (m.answer action).2

/-- The calls among the questions of a run. -/
def calls (program : Program α) (m : Machine) : List Moment :=
  (program.moments m).filter Moment.isCall

def events (program : Program α) (m : Machine) : List Event :=
  (program.moments m).filterMap Moment.event?

theorem moments_bind (program : Program α) (next : α → Program β) (m : Machine) :
    (program >>= next).moments m =
      program.moments m ++ (next (program.run m).1).moments (program.run m).2 := by
  induction program generalizing m with
  | done value => rfl
  | ask action rest ih => exact congrArg (_ :: ·) (ih _ _)

@[simp] theorem calls_bind (program : Program α) (next : α → Program β) (m : Machine) :
    (program >>= next).calls m =
      program.calls m ++ (next (program.run m).1).calls (program.run m).2 := by
  rw [calls, moments_bind, List.filter_append]; rfl

end Program

/-! ## The ledger as a contract -/

/-- A machine, and the calls that were made so far. -/
structure Ledger where
  machine : Machine
  calls : List Moment

namespace Ledger

def enter (l : Ledger) (action : Action) : Ledger :=
  ⟨(l.machine.answer action).2, l.calls ++ [⟨l.machine, action⟩].filter Moment.isCall⟩

/-- One machine answers everything, and the calls are written down. -/
def contract : Contract Ledger where
  allows _ _ := True
  answers l action reply l' := reply = (l.machine.answer action).1 ∧ l' = l.enter action

/-- The rule of a question. -/
theorem meets_perform (action : Action) {post : action.Reply → Ledger → Prop} {l : Ledger} :
    (Program.perform action).Meets contract post l ↔
      post (l.machine.answer action).1 (l.enter action) := by
  rw [Program.meets_perform]
  constructor
  · intro h
    exact h.2 _ _ ⟨rfl, rfl⟩
  · rintro h
    refine ⟨trivial, ?_⟩
    intro reply t answered
    obtain ⟨rfl, rfl⟩ := answered
    exact h

/-- A random draw always brings a value. -/
theorem meets_draw {post : Block → Ledger → Prop} {l : Ledger}
    (next : ∀ q m value, q.event? = some .random → q.outcome = .ok value →
      post value ⟨m, l.calls ++ [q]⟩) : (Program.perform .draw).Meets contract post l :=
  (meets_perform .draw).2 (next ⟨l.machine, .draw⟩ (l.machine.answer .draw).2 _ rfl rfl)

/-- A line of the log is no call. -/
theorem meets_log {level : Level} {text : String} {post : Unit → Ledger → Prop} {l : Ledger}
    (next : ∀ m, post () ⟨m, l.calls⟩) : (Program.log level text).Meets contract post l := by
  refine (meets_perform (.log ⟨level, text⟩)).2 ?_
  have unseen : [(⟨l.machine, .log ⟨level, text⟩⟩ : Moment)].filter Moment.isCall = [] := rfl
  rw [enter, unseen, List.append_nil]
  exact next _

theorem meets_log_bind {ε α : Type} {level : Level} {text : String} {next : Attempt ε α}
    {post : Except ε α → Ledger → Prop} {l : Ledger}
    (onward : ∀ m, next.run.Meets contract post ⟨m, l.calls⟩) :
    (liftM (Program.log level text) >>= fun _ => next : Attempt ε α).run.Meets contract post l :=
  Program.meets_run_bind.2 (Program.meets_run_lift.2 (meets_log onward))

/-- A line of the log after an attempt changes neither its result nor its calls. -/
theorem meets_bind_log {ε : Type} {x : Attempt ε Unit} {level : Level} {text : String}
    {post : Except ε Unit → Ledger → Prop} {l : Ledger}
    (h : x.run.Meets contract (fun result t => ∀ m, post result ⟨m, t.calls⟩) l) :
    (x >>= fun _ => liftM (Program.log level text)).run.Meets contract post l := by
  refine Program.meets_run_bind.2 (h.mono ?_)
  intro result t logged
  cases result with
  | error err => exact logged t.machine
  | ok _ => exact Program.meets_run_lift.2 (meets_log logged)

end Ledger

namespace Program

variable {α : Type}

theorem meets_ledger {program : Program α} {post : α → Ledger → Prop} {m : Machine}
    {qs : List Moment} : program.Meets Ledger.contract post ⟨m, qs⟩ ↔
      post (program.run m).1 ⟨(program.run m).2, qs ++ program.calls m⟩ := by
  induction program generalizing m qs with
  | done value =>
    show post value ⟨m, qs⟩ ↔ post value ⟨m, qs ++ []⟩
    rw [List.append_nil]
  | ask action next ih =>
    have entered : (ask action next).calls m = [(⟨m, action⟩ : Moment)].filter Moment.isCall ++
        (next (m.answer action).1).calls (m.answer action).2 :=
      (List.filter_append [(⟨m, action⟩ : Moment)] _ :)
    rw [entered, ← List.append_assoc]
    constructor
    · intro h
      exact (ih _).1 (h.2 _ _ ⟨rfl, rfl⟩)
    · rintro h
      refine ⟨trivial, ?_⟩
      intro reply t answered
      obtain ⟨rfl, rfl⟩ := answered
      exact (ih _).2 h

/-- The contract of a whole run, from an empty ledger. -/
theorem calls_run_of_meets {program : Program α} {post : α → List Moment → Prop} {m : Machine}
    (h : program.Meets Ledger.contract (fun value l => post value l.calls) ⟨m, []⟩) :
    post (program.run m).1 (program.calls m) := meets_ledger.1 h

/-- Takes a step over a function of which the calls and the result are known. -/
theorem meets_of_calls_run {program : Program α} {shape : α → List Moment → Prop}
    {post : α → Ledger → Prop} {l : Ledger}
    (known : shape (program.run l.machine).1 (program.calls l.machine))
    (next : ∀ value m qs, shape value qs → post value ⟨m, l.calls ++ qs⟩) :
    program.Meets Ledger.contract post l := meets_ledger.2 (next _ _ _ known)

end Program

/-! ## What a run leaves -/

/-- A question that is no call leaves the device as it is. -/
theorem Moment.device_after {q : Moment} (h : q.isCall = false) :
    q.after.device = q.machine.device := by
  obtain ⟨m, action⟩ := q
  cases action with
  | fileExists _ | log _ | claim _ | release _ => rfl
  | openAt _ | close | lock | unlock | transfer _ | draw => cases h

/-- Each call finds the device as the one before left it. -/
def Linked : Device → List Moment → Device → Prop
  | d, [], d' => d' = d
  | d, q :: qs, d' => q.machine.device = d ∧ Linked q.after.device qs d'

theorem linked_append {d d' : Device} {qs rs : List Moment} :
    Linked d (qs ++ rs) d' ↔ ∃ e, Linked d qs e ∧ Linked e rs d' := by
  induction qs generalizing d with
  | nil => simp [Linked]
  | cons q qs ih => simp [Linked, ih, and_assoc]

namespace Program

variable {α : Type}

/-- Nothing but a call touches the device. -/
theorem linked_calls (program : Program α) (m : Machine) :
    Linked m.device (program.calls m) (program.run m).2.device := by
  induction program generalizing m with
  | done value => rfl
  | ask action next ih =>
    have rest := ih (m.answer action).1 (m.answer action).2
    cases h : (Moment.mk m action).isCall with
    | true =>
      have calls : (ask action next).calls m =
          ⟨m, action⟩ :: (next (m.answer action).1).calls (m.answer action).2 :=
        List.filter_cons_of_pos h
      rw [calls]
      exact ⟨rfl, rest⟩
    | false =>
      -- The question is not on the list, and the device did not notice it.
      have calls : (ask action next).calls m =
          (next (m.answer action).1).calls (m.answer action).2 :=
        List.filter_cons_of_neg (by simp [h])
      rw [calls]
      exact Moment.device_after h ▸ rest

/-- The ledger is the record that the machine itself keeps. -/
theorem events_run (program : Program α) (m : Machine) :
    (program.run m).2.events = m.events ++ program.events m := by
  induction program generalizing m with
  | done value => exact (List.append_nil _).symm
  | ask action next ih =>
    have kept : (m.answer action).2.events = m.events ++ action.event?.toList := by
      cases action <;> simp [Machine.answer, Machine.onDevice, Machine.record, Action.event?]
    have split : (ask action next).events m =
        action.event?.toList ++ (next (m.answer action).1).events (m.answer action).2 := by
      show List.filterMap _ (_ :: _) = _
      rw [List.filterMap_cons]
      cases action <;> rfl
    rw [split, ← List.append_assoc, ← kept]
    exact ih _ _

end Program

end DeviceKeys
