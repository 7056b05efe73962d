import DeviceKeys.Mailbox

/-!
# Programs

Everything that the library does to a device is written as a program: a tree whose inner nodes are
questions to the surroundings (`Action`) and whose leaves are results. The tree holds the whole
behaviour, for every answer that could come back, and decides nothing about who answers. A machine
can answer a program from the first question to the last, and several programs can take turns at
one device; both read the same tree.

`Program` is a lawful monad, so programs are written in `do` notation and compared by rewriting.
The one construction of its own is `ensuring`, which runs a clean-up whatever came before and lets
the failure of the clean-up take the place of any result.
-/

set_option autoImplicit false

namespace DeviceKeys

/-! ## Records -/

inductive Level where
  | debug
  | info
  | warning
  deriving DecidableEq, Repr

def Level.name : Level → String
  | debug => "DEBUG"
  | info => "INFO"
  | warning => "WARNING"

/-- A line of the log. -/
structure Record where
  level : Level
  text : String
  deriving DecidableEq, Repr

/-- The number of one claim to a region; numbers are not used twice. -/
abbrev ClaimId := Nat

/-! ## Actions -/

/-- A question that a program asks of its surroundings: the calls of the operating system, a random
draw, and, within its own process, the log and the claims to regions. -/
inductive Action where
  | openAt (path : String)
  | close
  | lock
  | unlock
  | transfer (buffer : Mailbox.Buffer)
  | fileExists (path : String)
  | draw
  | log (record : Record)
  | claim (region : Region)
  | release (claim : ClaimId)
  deriving DecidableEq, Repr

/-- What comes back: a failed call gives its error number, and a claim fails if the region is
already claimed. -/
def Action.Reply : Action → Type
  | openAt _ | close | lock | unlock => Except Nat Unit
  | transfer _ => Except Nat Mailbox.Buffer
  | fileExists _ => Bool
  | draw => Block
  | log _ | release _ => Unit
  | claim _ => Option ClaimId

/-! ## Programs -/

inductive Program (α : Type) where
  | done (value : α)
  | ask (action : Action) (next : action.Reply → Program α)

namespace Program

variable {α β γ ε : Type}

def bind (program : Program α) (next : α → Program β) : Program β :=
  match program with
  | done value => next value
  | ask action rest => ask action fun reply => (rest reply).bind next

instance : Monad Program where
  pure := done
  bind := bind

theorem bind_done (program : Program α) : program >>= done = program := by
  induction program with
  | done value => rfl
  | ask action rest ih => exact congrArg (ask action) (funext ih)

/-- The monad is lawful because a program is a tree, and a sequence grafts at its leaves. -/
theorem bind_assoc (program : Program α) (first : α → Program β) (second : β → Program γ) :
    program >>= first >>= second = program >>= fun value => first value >>= second := by
  induction program with
  | done value => rfl
  | ask action rest ih => exact congrArg (ask action) (funext ih)

instance : LawfulMonad Program :=
  LawfulMonad.mk' Program bind_done (fun _ _ => rfl) bind_assoc

/-- Asks one question and gives its answer. -/
def perform (action : Action) : Program action.Reply := ask action done

def log (level : Level) (text : String) : Program Unit := perform (.log ⟨level, text⟩)

/-- Hands the outcome of a body on, so that a failure can be looked at. -/
def outcome {ε' : Type} (body : ExceptT ε Program α) : ExceptT ε' Program (Except ε α) :=
  ExceptT.lift body.run

/-- Takes a result that is already there into a program. -/
def ofExcept (result : Except ε α) : ExceptT ε Program α := .mk (pure result)

/-- Runs `cleanup` whatever came of `body`. If the clean-up fails, its failure is the result. -/
def ensuring (body : ExceptT ε Program α) (cleanup : ExceptT ε Program Unit) :
    ExceptT ε Program α := .mk do
  let result ← body.run
  match ← cleanup.run with
  | .ok () => return result
  | .error err => return .error err

@[simp] theorem run_outcome {ε' : Type} (body : ExceptT ε Program α) :
    (outcome body : ExceptT ε' Program (Except ε α)).run = Except.ok <$> body.run := rfl

end Program

/-- A program that can fail. -/
abbrev Attempt (ε α : Type) := ExceptT ε Program α

end DeviceKeys
