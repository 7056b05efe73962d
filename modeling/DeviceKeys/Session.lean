import DeviceKeys.Answer
import DeviceKeys.Keeper
import DeviceKeys.Machine

/-!
# Sessions

A session is one process at work: settings, media, keepers and open handles under names, and steps
that make them, use them and let them go. It is here that a medium has a life: its region is claimed
when it is made, and given back when it is closed or when nothing refers to it any more, whichever
comes first (`Session.drop`).

A handle that was closed is kept, and can be asked for anything but a close only where the calls do
not look at the file (`ClosedCalls`).

`Session.perform` is a program like every other. Only a change of the device itself is not, since
it comes from outside; `Session.advance` takes both, on a machine.
-/

set_option autoImplicit false

namespace DeviceKeys

/-! ## Steps -/

/-- What a name can stand for. -/
inductive Item where
  | settings (settings : Settings)
  | medium (medium : Medium)
  | keeper (keeper : Keeper)
  | handle (handle : Handle)
  deriving DecidableEq, Repr

/-- What can be done with a named item; each item takes part of these. -/
inductive Operation where
  | text
  | close
  | inspect
  | program (value : Bytes)
  | fetch
  | region
  | placeName
  | provide
  | state
  | isProvided
  | secret
  | key (label : Label) (length : Int)
  | hexKey (label : Label) (length : Int)
  | uuid (label : Label)
  | report
  | exchange (tag : Int) (value : Option Bytes)
  | lock
  | unlock
  deriving DecidableEq, Repr

inductive Step where
  | alterDevice (change : Device.Change)
  | makeSettings (name : String) (fields : Fields)
  | loadSettings (name : String) (customerRegion : Option Bool) (salt : Option String)
  | claimRegion (name : String) (region : Region) (path : String)
  | makeOverride (name : String) (seed : Bytes)
  | selectMedium (name : String) (settings : String)
  | makeKeeper (name : String) (settings medium : Option String)
  | openHandle (name : String) (path : String)
  | operate (name : String) (operation : Operation)
  | drop (name : String)
  | mailboxPresent (path : String)
  | offersPrivateKey (path : String)
  deriving DecidableEq, Repr

/-! ## Operations on items -/

/-- What becomes of a call on a file that is closed. -/
inductive ClosedCalls where
  /-- There is no file to make it on, so that the system does not take it. -/
  | refused
  /-- What stands in for the system does not look at the file, and makes the call. -/
  | made
  deriving DecidableEq, Repr

namespace Item

/-- The claim that an item keeps within reach. -/
def claim? : Item → Option ClaimId
  | .medium m => m.claim?
  | .keeper k => k.medium.claim?
  | .settings _ | .handle _ => none

def onMedium (name : String) (m : Medium) : Operation → Attempt Error Answer
  | .text => return .text m.text
  | .close => do m.close; return .nothing
  | .inspect => .state <$> m.inspect
  | .program value => do m.program value; return .nothing
  | .fetch => (fun secret => .bytes secret.bytes) <$> m.fetch
  | .region => return .region m.region?
  | _ => throw (.inapplicable name)

def onKeeper (name : String) (k : Keeper) : Operation → Attempt Error Answer
  | .text => return .text k.text
  | .close => do k.close; return .nothing
  | .placeName => return .text k.placeName
  | .provide => .outcome <$> k.provide
  | .state => .state <$> k.state
  | .isProvided => .flag <$> k.isProvided
  | .secret => (fun secret => .bytes secret.bytes) <$> k.secret
  | .key label length => .bytes <$> k.key label length
  | .hexKey label length => .text <$> k.hexKey label length
  | .uuid label => (fun uuid => .text uuid.text) <$> k.uuid label
  | .report => .report <$> k.report
  | _ => throw (.inapplicable name)

/-- Whether an operation on a handle comes to a call on its file. A request that cannot be sent does
not, nor does a close, which looks at the handle first. -/
def callsOnFile : Operation → Bool
  | .exchange tag value => (Handle.checked tag value).isOk
  | .lock | .unlock => true
  | _ => false

/-- Operations on a handle also say what becomes of it, which only a close can change. Leaving a
lock tells whether an error of the block was swallowed, which never happens. -/
def onHandle (closedCalls : ClosedCalls) (name : String) (h : Handle) :
    Operation → Program (Except Error Answer × Handle)
  | .close => do
    let (closed, left) ← h.close
    return (closed.mapError .call |>.map fun _ => .nothing, left)
  | operation =>
    if closedCalls = .refused ∧ h.isOpen = false ∧ callsOnFile operation then
      return (.error .closedHandle, h)
    else do return (← (ask operation).run, h)
where
  ask : Operation → Attempt Error Answer
    | .exchange tag value => (fun block => .bytes block.toList) <$> Handle.send tag value
    | .lock => do Handle.lock.adapt .call; return .nothing
    | .unlock => do Handle.unlock.adapt .call; return .flag false
    | _ => throw (.inapplicable name)

/-- All but a close leaves the handle as it is, and is refused unasked or asked. -/
theorem onHandle_eq (closedCalls : ClosedCalls) (name : String) (h : Handle) {operation : Operation}
    (other : operation ≠ .close) :
    onHandle closedCalls name h operation = pure (.error .closedHandle, h) ∨
      onHandle closedCalls name h operation =
        (do return (← (onHandle.ask name operation).run, h)) := by
  cases operation with
  | close => exact absurd rfl other
  | _ =>
    simp only [onHandle]
    split
    · exact .inl rfl
    · exact .inr rfl

end Item

/-! ## Sessions -/

structure Session where
  environment : Environment
  /-- The items by name, the latest first. -/
  items : List (String × Item)
  closedCalls : ClosedCalls
  deriving DecidableEq, Repr

namespace Session

/-- A session with nothing in it; unless told otherwise, on a device that is simulated and so takes
calls on closed files. -/
def start (environment : Environment) (closedCalls : ClosedCalls := .made) : Session :=
  ⟨environment, [], closedCalls⟩

def item? (s : Session) (name : String) : Option Item := s.items.lookup name

def keep (s : Session) (name : String) (item : Item) : Session :=
  { s with items := (name, item) :: s.items }

/-- Puts another item under a name that stands for one already. -/
def replace (s : Session) (name : String) (item : Item) : Session :=
  { s with items := s.items.map fun (other, held) => (other, if other = name then item else held) }

def forget (s : Session) (name : String) : Session :=
  { s with items := s.items.filter fun (other, _) => other != name }

/-- Whether some name still leads to the medium with this claim. -/
def reaches (s : Session) (id : ClaimId) : Bool :=
  s.items.any fun (_, item) => item.claim? == some id

def settings? (s : Session) (name : String) : Except Error Settings :=
  match s.item? name with
  | some (.settings settings) => .ok settings
  | _ => .error (.inapplicable name)

def medium? (s : Session) (name : String) : Except Error Medium :=
  match s.item? name with
  | some (.medium medium) => .ok medium
  | _ => .error (.inapplicable name)

/-- The settings of the given name, or else the one that the environment describes. -/
def settingsOrEnvironment (s : Session) : Option String → Attempt Error Settings
  | some name => Program.ofExcept (s.settings? name)
  | none => Settings.load s.environment none none

/-- Makes an item and keeps it under a name, unless making it fails. -/
def make (s : Session) (name : String) (body : Attempt Error (Item × Answer)) :
    Program (Except Error Answer × Session) := do
  match ← body.run with
  | .ok (item, answer) => return (.ok answer, s.keep name item)
  | .error err => return (.error err, s)

/-- Forgets a name. A medium that no other name leads to gives its region back. -/
def drop (s : Session) (name : String) : Program Session := do
  let left := s.forget name
  match (s.item? name).bind Item.claim? with
  | some id => if !left.reaches id then Program.perform (.release id)
  | none => pure ()
  return left

def operate (s : Session) (name : String) (operation : Operation) :
    Program (Except Error Answer × Session) := do
  match s.item? name with
  | some (.medium medium) => return (← (Item.onMedium name medium operation).run, s)
  | some (.keeper keeper) => return (← (Item.onKeeper name keeper operation).run, s)
  | some (.handle handle) =>
    let (answer, left) ← Item.onHandle s.closedCalls name handle operation
    return (answer, s.replace name (.handle left))
  | some (.settings _) | none => return (.error (.inapplicable name), s)

/-- Does one step of the process itself. -/
def perform (s : Session) : Step → Program (Except Error Answer × Session)
  | .alterDevice _ => return (.ok .nothing, s)
  | .makeSettings name fields => s.make name do
    let settings ← Program.ofExcept (Settings.ofFields fields)
    return (.settings settings, .settings settings)
  | .loadSettings name customerRegion salt => s.make name do
    let settings ← Settings.load s.environment customerRegion salt
    return (.settings settings, .settings settings)
  | .claimRegion name region path => s.make name do
    let medium ← Medium.claim region path
    return (.medium medium, .text medium.text)
  | .makeOverride name seed => s.make name do
    return (.medium (.override seed), .text (Medium.override seed).text)
  | .selectMedium name settings => s.make name do
    let medium ← Medium.ofSettings (← Program.ofExcept (s.settings? settings))
    return (.medium medium, .text medium.text)
  | .makeKeeper name settings medium => s.make name do
    let settings ← s.settingsOrEnvironment settings
    let medium ← match medium with
      | some medium => some <$> Program.ofExcept (s.medium? medium)
      | none => pure none
    let keeper ← Keeper.make settings medium
    return (.keeper keeper, .text keeper.text)
  | .openHandle name path => s.make name do
    let handle ← (Handle.openAt path).adapt .call
    return (.handle handle, .text handle.path)
  | .operate name operation => s.operate name operation
  | .drop name => do return (.ok .nothing, ← s.drop name)
  | .mailboxPresent path => do return (.ok (.flag (← Handle.mailboxPresent path)), s)
  | .offersPrivateKey path => do return (.ok (.flag (← Handle.offersPrivateKey path)), s)

/-! ## Running steps on a machine -/

/-- What is seen of one step. -/
structure Trace where
  answer : Except Error Answer
  events : List Event
  log : List Record
  deriving Repr

/-- Does one step on a machine. -/
def advance (s : Session) (m : Machine) (step : Step) : Trace × Session × Machine :=
  let m := match step with
    | .alterDevice change => { m.unrecorded with device := m.device.alter change }
    | _ => m.unrecorded
  let ((answer, s), m) := (s.perform step).run m
  (⟨answer, m.events, m.log⟩, s, m)

/-- Does steps in order. -/
def play (s : Session) (m : Machine) : List Step → List Trace × Session × Machine
  | [] => ([], s, m)
  | step :: rest =>
    let (trace, s, m) := s.advance m step
    let (traces, s, m) := s.play m rest
    (trace :: traces, s, m)

end Session

end DeviceKeys
