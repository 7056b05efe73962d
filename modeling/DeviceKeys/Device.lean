import DeviceKeys.Mailbox

/-!
# The device

What stands behind the calls of the operating system: two regions of rows in which a bit once set
stays set, a firmware that may not offer every region, and a file through which both are reached.
The device is given as a value, faults included, so that a law about the library can speak of every
device there is.

A fault lies in wait at one kind of call. It lets a number of calls pass, then strikes a number of
times, or for ever; of several faults in wait the first one strikes and the later ones do not see
the call. What a fault does is one of three things (`FaultEffect`): the call fails, another process
programs rows while the lock is being waited for, or the firmware's side of a request is bent.

The writing of rows is in one place (`Rows.burn`), which can only add bits.
-/

set_option autoImplicit false

namespace DeviceKeys

/-! ## Rows -/

structure Rows where
  privateKey : Block
  customer : Block
  deriving DecidableEq, Repr

namespace Rows

def zero : Rows := ⟨Block.zero, Block.zero⟩

def get (rows : Rows) : Region → Block
  | .privateKey => rows.privateKey
  | .customer => rows.customer

def set (rows : Rows) (region : Region) (value : Block) : Rows :=
  match region with
  | .privateKey => { rows with privateKey := value }
  | .customer => { rows with customer := value }

/-- Programs a value on top of what the region holds. -/
def burn (rows : Rows) (region : Region) (value : Block) : Rows :=
  rows.set region ((rows.get region).burn value)

def burnAll (rows : Rows) (values : List (Region × Block)) : Rows :=
  values.foldl (fun rows (region, value) => rows.burn region value) rows

@[simp] theorem get_set_same (rows : Rows) (region : Region) (value : Block) :
    (rows.set region value).get region = value := by
  cases region <;> rfl

@[simp] theorem get_set_ne (rows : Rows) {region other : Region} (value : Block)
    (h : other ≠ region) : (rows.set region value).get other = rows.get other := by
  cases region <;> cases other <;> simp_all [set, get]

end Rows

/-! ## Faults -/

/-- The kinds of call at which a fault can lie in wait. -/
inductive FaultPoint where
  | openAt
  | close
  | lock
  | unlock
  | read
  | write
  /-- A request with a tag that the firmware does not know. -/
  | unknown
  deriving DecidableEq, Repr

inductive FaultEffect where
  /-- The call fails with an error number of the system. -/
  | fail (errno : Nat)
  /-- Another process programs rows before the lock is granted. -/
  | program (values : List (Region × Block))
  /-- The firmware answers with another code, takes in another value than it was given, or answers
  with another value than the rows hold. -/
  | bend (code : Option UInt32) (mask reply : Option Block)
  deriving DecidableEq, Repr

structure Fault where
  point : FaultPoint
  /-- The one region that the fault waits for, if it is not every region. -/
  region : Option Region
  /-- How many calls still pass. -/
  skip : Nat
  /-- How many times the fault still strikes; without a number, for ever. -/
  times : Option Nat
  effect : FaultEffect
  deriving DecidableEq, Repr

namespace Fault

/-- Whether a fault sees a call at all; a call outside the firmware has no region. -/
def sees (fault : Fault) (point : FaultPoint) (region : Option Region) : Bool :=
  fault.point == point && (fault.region.isNone || fault.region == region)

/-- What a call does to a fault: whether it strikes, and what is left of it. -/
def meet (fault : Fault) (point : FaultPoint) (region : Option Region) : Bool × Fault :=
  if !fault.sees point region then (false, fault)
  else if 0 < fault.skip then (false, { fault with skip := fault.skip - 1 })
  else match fault.times with
    | none => (true, fault)
    | some 0 => (false, fault)
    | some (left + 1) => (true, { fault with times := some left })

/-- The first fault that strikes a call, and the faults after it. -/
def strike (point : FaultPoint) (region : Option Region) :
    List Fault → Option FaultEffect × List Fault
  | [] => (none, [])
  | fault :: rest =>
    match fault.meet point region with
    | (true, left) => (some fault.effect, left :: rest)
    | (false, left) =>
      let (effect, rest) := strike point region rest
      (effect, left :: rest)

end Fault

/-! ## Requests, as the firmware understands them -/

inductive Request where
  | read (region : Region)
  | write (region : Region) (value : Block)
  | unknown (tag : UInt32)
  deriving DecidableEq, Repr

namespace Request

/-- Only the tag decides; a read carries no value whatever stands in its place. -/
def ofBuffer (buffer : Mailbox.Buffer) : Request :=
  match Region.all.find? fun region => buffer.tag.toNat == Mailbox.tagForReading region with
  | some region => .read region
  | none =>
    match Region.all.find? fun region => buffer.tag.toNat == Mailbox.tagForWriting region with
    | some region => .write region buffer.value
    | none => .unknown buffer.tag

def region? : Request → Option Region
  | read region | write region _ => some region
  | unknown _ => none

def point : Request → FaultPoint
  | read _ => .read
  | write _ _ => .write
  | unknown _ => .unknown

/-- The firmware takes a request to read for what it is, whatever stands in place of a value. -/
theorem ofBuffer_read (region : Region) (value : Option Block) :
    ofBuffer (.request (.ofNat (Mailbox.tagForReading region)) value) = .read region := by
  cases region <;>
    simp [ofBuffer, Region.all, Mailbox.tagForReading, Mailbox.Buffer.tag_request, List.find?]

theorem ofBuffer_write (region : Region) (value : Block) :
    ofBuffer (.request (.ofNat (Mailbox.tagForWriting region)) (some value)) =
      .write region value := by
  cases region <;>
    simp [ofBuffer, Region.all, Mailbox.tagForReading, Mailbox.tagForWriting,
      Mailbox.Buffer.tag_request, List.find?]

end Request

/-! ## Devices -/

structure Device where
  /-- Whether the file of the mailbox interface exists. -/
  present : Bool
  path : String
  rows : Rows
  unavailable : List Region
  faults : List Fault
  deriving DecidableEq, Repr

namespace Device

/-- A device without faults that offers both regions and was never programmed. -/
def blank : Device := ⟨true, Mailbox.standardPath, Rows.zero, [], []⟩

/-- What a computer without the mailbox file has in place of a device. -/
def absent : Device := { blank with present := false }

/-- What is to be different about a device; of what is left out, everything stays. -/
structure Change where
  present : Option Bool
  path : Option String
  /-- Contents that take the place of what a region holds, bits taken away included. -/
  rows : List (Region × Block)
  unavailable : Option (List Region)
  faults : Option (List Fault)
  deriving DecidableEq, Repr

/-- Exchanges the device from outside, which no call can do. -/
def alter (d : Device) (change : Change) : Device where
  present := change.present.getD d.present
  path := change.path.getD d.path
  rows := change.rows.foldl (fun rows (region, value) => rows.set region value) d.rows
  unavailable := change.unavailable.getD d.unavailable
  faults := change.faults.getD d.faults

def hasFile (d : Device) (path : String) : Bool := d.present && path == d.path

/-- Lets a call meet the faults in wait for it. -/
def strike (d : Device) (point : FaultPoint) (region : Option Region) :
    Option FaultEffect × Device :=
  let (effect, faults) := Fault.strike point region d.faults
  (effect, { d with faults })

/-- A call that does nothing but succeed or fail. -/
def call (d : Device) (point : FaultPoint) : Except Nat Unit × Device :=
  match d.strike point none with
  | (some (.fail errno), d) => (.error errno, d)
  | (_, d) => (.ok (), d)

/-- A file that is missing is missed before any fault. -/
def openAt (d : Device) (path : String) : Except Nat Unit × Device :=
  if d.hasFile path then d.call .openAt else (.error CallError.noSuchFile, d)

/-- Rows that another process programs are there as soon as the lock is. -/
def lock (d : Device) : Except Nat Unit × Device :=
  match d.strike .lock none with
  | (some (.fail errno), d) => (.error errno, d)
  | (some (.program values), d) => (.ok (), { d with rows := d.rows.burnAll values })
  | (_, d) => (.ok (), d)

/-- The code of the firmware's answer: a request that it does not offer is refused whatever a fault
would have it say. -/
def answerCode (d : Device) (request : Request) (bent : Option UInt32) : UInt32 :=
  match request.region? with
  | none => Mailbox.failure
  | some region =>
    if d.unavailable.contains region then Mailbox.failure else bent.getD Mailbox.success

/-- The firmware's part of a request. Nothing is written unless the answer is success. -/
def carryOut (d : Device) (buffer : Mailbox.Buffer) (code : Option UInt32)
    (mask reply : Option Block) : Mailbox.Buffer × Device :=
  let request := Request.ofBuffer buffer
  let code := d.answerCode request code
  if code ≠ Mailbox.success then (buffer.answer code buffer.value, d)
  else match request with
    | .read region => (buffer.answer code (reply.getD (d.rows.get region)), d)
    | .write region value =>
      let taken := mask.elim value value.flip
      let d := { d with rows := d.rows.burn region taken }
      (buffer.answer code (reply.getD (d.rows.get region)), d)
    | .unknown _ => (buffer.answer code buffer.value, d)

/-- Exchanges a buffer with the firmware. -/
def transfer (d : Device) (buffer : Mailbox.Buffer) : Except Nat Mailbox.Buffer × Device :=
  let request := Request.ofBuffer buffer
  match d.strike request.point request.region? with
  | (some (.fail errno), d) => (.error errno, d)
  | (some (.bend code mask reply), d) =>
    let (answer, d) := d.carryOut buffer code mask reply
    (.ok answer, d)
  | (_, d) =>
    let (answer, d) := d.carryOut buffer none none none
    (.ok answer, d)

end Device

end DeviceKeys
