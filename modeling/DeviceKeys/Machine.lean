import DeviceKeys.Device
import DeviceKeys.Program

/-!
# Machines

A machine answers programs. It holds the device, the random draws that are still to come, and,
for the process at work, the claims to regions; and it keeps the two records by which a run is
judged from outside: the calls that were made (`events`) and the lines that were logged.

A call is recorded before it is answered, so that one that fails has been made all the same. The
question whether a file exists, the log and the claims are no calls of this kind and leave no event.
-/

set_option autoImplicit false

namespace DeviceKeys

/-! ## Claims -/

/-- The claims of one process: how many were ever granted, and those that still hold. -/
structure Claims where
  granted : Nat
  held : List (ClaimId × Region)
  deriving DecidableEq, Repr

namespace Claims

def none : Claims := ⟨0, []⟩

def isClaimed (claims : Claims) (region : Region) : Bool :=
  claims.held.any fun (_, claimed) => claimed == region

/-- Grants a claim under a new number, unless the region is claimed. -/
def claim (claims : Claims) (region : Region) : Option ClaimId × Claims :=
  if claims.isClaimed region then (.none, claims)
  else (some claims.granted, ⟨claims.granted + 1, (claims.granted, region) :: claims.held⟩)

/-- Gives one claim back; a claim that was given back before is none of those held. -/
def release (claims : Claims) (id : ClaimId) : Claims :=
  { claims with held := claims.held.filter fun (held, _) => held != id }

end Claims

/-! ## Events -/

/-- A call as an observer of the machine sees it. -/
inductive Event where
  | openAt (path : String)
  | close
  | lock
  | unlock
  | request (request : Request)
  | random
  deriving DecidableEq, Repr

def Event.text : Event → String
  | openAt path => s!"open {path}"
  | close => "close"
  | lock => "lock"
  | unlock => "unlock"
  | request (.read region) => s!"read {region.name}"
  | request (.write region value) => s!"write {region.name} {Bytes.hex value.toList}"
  | request (.unknown tag) => s!"tag 0x{Text.hex8 tag.toNat}"
  | random => "random 32"

/-! ## Answers -/

structure Machine where
  device : Device
  /-- The draws to come; when they are used up, every draw is `standardDraw`. -/
  draws : List Block
  claims : Claims
  events : List Event
  log : List Record
  deriving DecidableEq, Repr

namespace Machine

/-- The bytes from 1 to 32. -/
def standardDraw : Block := .ofFn fun i => UInt8.ofNat (i.val + 1)

/-- A machine at the start of a process. -/
def start (device : Device) (draws : List Block) : Machine :=
  ⟨device, draws, .none, [], []⟩

/-- The machine with nothing recorded yet. -/
def unrecorded (m : Machine) : Machine := { m with events := [], log := [] }

def record (m : Machine) (event : Event) : Machine := { m with events := m.events ++ [event] }

/-- Lets the device answer. -/
def onDevice {α : Type} (m : Machine) (step : Device → α × Device) : α × Machine :=
  let (answer, device) := step m.device
  (answer, { m with device })

def answer (m : Machine) : (action : Action) → action.Reply × Machine
  | .openAt path => (m.record (.openAt path)).onDevice (·.openAt path)
  | .close => (m.record .close).onDevice (·.call .close)
  | .lock => (m.record .lock).onDevice (·.lock)
  | .unlock => (m.record .unlock).onDevice (·.call .unlock)
  | .transfer buffer =>
    (m.record (.request (.ofBuffer buffer))).onDevice (·.transfer buffer)
  | .fileExists path => (m.device.hasFile path, m)
  | .draw => (m.draws.headD standardDraw, { m.record .random with draws := m.draws.tail })
  | .log record => ((), { m with log := m.log ++ [record] })
  | .claim region =>
    let (granted, claims) := m.claims.claim region
    (granted, { m with claims })
  | .release id => ((), { m with claims := m.claims.release id })

end Machine

/-- Runs a program to its end on a machine. -/
def Program.run {α : Type} : Program α → Machine → α × Machine
  | .done value, m => (value, m)
  | .ask action next, m =>
    let (reply, m) := m.answer action
    (next reply).run m

namespace Program

variable {α β : Type}

@[simp] theorem run_pure (value : α) (m : Machine) : (pure value : Program α).run m = (value, m) :=
  rfl

@[simp] theorem run_perform (action : Action) (m : Machine) :
    (perform action).run m = m.answer action := rfl

/-- A run of two programs one after the other is the run of the second where the first ended. -/
@[simp] theorem run_bind (program : Program α) (next : α → Program β) (m : Machine) :
    (program >>= next).run m = (next (program.run m).1).run (program.run m).2 := by
  induction program generalizing m with
  | done value => rfl
  | ask action rest ih => exact ih _ _

end Program

end DeviceKeys
