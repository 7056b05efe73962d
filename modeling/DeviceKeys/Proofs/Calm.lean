import DeviceKeys.Proofs.Provision
import DeviceKeys.Proofs.Runs

/-!
# Devices without faults

On a calm device no fault lies in wait, the file is there and the region is offered. So every call
succeeds, a read gives what the rows hold, and the rows change at writes only; a device that starts
calm stays so, whatever is called. What the library does on such a device is therefore determined:
each function below is given its result and the machine that it leaves, in which nothing is new but
the records, and, after a region was provided with a secret, its rows.
-/

set_option autoImplicit false

namespace DeviceKeys

/-! ## Calls -/

namespace Device

/-- A device on which every call to this region and at this path succeeds. -/
structure Calm (region : Region) (path : String) (d : Device) : Prop where
  faultless : d.faults = []
  present : d.hasFile path = true
  offered : region ∉ d.unavailable

namespace Calm

variable {region : Region} {path : String} {d : Device} {buffer : Mailbox.Buffer}

theorem strike_eq (calm : d.Calm region path) (point : FaultPoint) (other : Option Region) :
    d.strike point other = (none, d) := by
  obtain ⟨present, path, rows, unavailable, faults⟩ := d
  obtain rfl : faults = [] := calm.faultless
  rfl

theorem call_eq (calm : d.Calm region path) (point : FaultPoint) : d.call point = (.ok (), d) := by
  rw [call, calm.strike_eq]

theorem openAt_eq (calm : d.Calm region path) : d.openAt path = (.ok (), d) := by
  rw [openAt, if_pos calm.present, calm.call_eq]

theorem lock_eq (calm : d.Calm region path) : d.lock = (.ok (), d) := by
  rw [lock, calm.strike_eq]

theorem read (calm : d.Calm region path) (asks : Request.ofBuffer buffer = .read region) :
    ∃ answer, d.transfer buffer = (.ok answer, d) ∧ answer.code = Mailbox.success ∧
      answer.value = d.rows.get region := by
  refine ⟨buffer.answer Mailbox.success (d.rows.get region), ?_, rfl,
    Mailbox.Buffer.value_answer ..⟩
  simp [transfer, calm.strike_eq, carryOut, answerCode, Request.region?, asks, calm.offered]

/-- A write is carried out, and reads back what the region now holds. -/
theorem transfer_write (calm : d.Calm region path) {value : Block}
    (asks : Request.ofBuffer buffer = .write region value) : d.transfer buffer =
      (.ok (buffer.answer Mailbox.success ((d.rows.burn region value).get region)),
        { d with rows := d.rows.burn region value }) := by
  simp [transfer, calm.strike_eq, carryOut, answerCode, Request.region?, asks, calm.offered]

theorem write (calm : d.Calm region path) {value : Block}
    (asks : Request.ofBuffer buffer = .write region value) :
    ∃ answer, d.transfer buffer = (.ok answer, { d with rows := d.rows.burn region value }) ∧
      answer.code = Mailbox.success := ⟨_, calm.transfer_write asks, rfl⟩

/-- Programming a region makes no device less calm. -/
theorem burnt (calm : d.Calm region path) (value : Block) :
    Calm region path { d with rows := d.rows.burn region value } :=
  ⟨calm.faultless, calm.present, calm.offered⟩

end Calm

end Device

/-- Without faults, no call changes anything of a device but its rows. -/
theorem Moment.calm_after {region : Region} {path : String} {q : Moment}
    (calm : q.machine.device.Calm region path) :
    ∃ rows, q.after.device = { q.machine.device with rows } := by
  obtain ⟨m, action⟩ := q
  cases action with
  | openAt opened =>
    refine ⟨m.device.rows, ?_⟩
    show (m.device.openAt opened).2 = m.device
    unfold Device.openAt
    split
    · rw [calm.call_eq]
    · rfl
  | close | unlock => exact ⟨m.device.rows, congrArg Prod.snd (calm.call_eq _)⟩
  | lock => exact ⟨m.device.rows, congrArg Prod.snd calm.lock_eq⟩
  | transfer buffer =>
    show ∃ rows, (m.device.transfer buffer).2 = { m.device with rows }
    simp only [Device.transfer, calm.strike_eq, Device.carryOut]
    split
    · exact ⟨m.device.rows, rfl⟩
    · split <;> exact ⟨_, rfl⟩
  | fileExists _ | draw | log _ | claim _ | release _ => exact ⟨m.device.rows, rfl⟩

/-- A device that is calm at the beginning of a run is calm all along it. -/
theorem Linked.calm {region : Region} {path : String} {d d' : Device} {qs : List Moment}
    (h : Linked d qs d') (calm : d.Calm region path) : d'.Calm region path := by
  induction qs generalizing d with
  | nil => rwa [show d' = d from h]
  | cons q qs ih =>
    obtain ⟨rfl, rest⟩ := h
    obtain ⟨rows, after⟩ := q.calm_after calm
    refine ih rest ?_
    rw [after]
    exact ⟨calm.faultless, calm.present, calm.offered⟩

/-! ## Machines -/

namespace Machine

/-- The machine with another line in its log. -/
def note (m : Machine) (level : Level) (text : String) : Machine :=
  { m with log := m.log ++ [⟨level, text⟩] }

/-- The machine with a value burned into its device. -/
def burn (m : Machine) (region : Region) (value : Block) : Machine :=
  { m with device := { m.device with rows := m.device.rows.burn region value } }

/-- The machine after a visit. -/
def visit (m : Machine) (region : Region) (path : String) : Machine :=
  ((m.record (.openAt path)).record (.request (.read region))).record .close

end Machine

/-! ## Handles -/

namespace Handle

variable {ε : Type} {region : Region} {path : String} {m : Machine}

/-- The result of a call that goes through. -/
theorem run_call_of_ok {α : Type} {answer : Program (Except Nat α)} {value : α} {m' : Machine}
    (h : answer.run m = (.ok value, m')) : (call answer).run.run m = (.ok value, m') := by
  show (answer >>= _).run m = _
  rw [Program.run_bind, h]
  rfl

theorem run_openAt (calm : m.device.Calm region path) :
    (openAt path).run.run m = (.ok ⟨path, true⟩, m.record (.openAt path)) := by
  show (Program.perform (.openAt path) >>= _).run m = _
  rw [Program.run_bind, Program.run_perform]
  simp only [Machine.answer, Machine.onDevice, Machine.record, calm.openAt_eq]
  rfl

theorem run_lock (calm : m.device.Calm region path) :
    lock.run.run m = (.ok (), m.record .lock) := by
  refine run_call_of_ok ?_
  show (m.record .lock).onDevice (·.lock) = _
  simp only [Machine.onDevice, Machine.record, calm.lock_eq]

theorem run_unlock (calm : m.device.Calm region path) :
    unlock.run.run m = (.ok (), m.record .unlock) := by
  refine run_call_of_ok ?_
  show (m.record .unlock).onDevice (·.call .unlock) = _
  simp only [Machine.onDevice, Machine.record, calm.call_eq]

/-- The close at the end of a bracket. -/
theorem run_close (calm : m.device.Calm region path) (refused : CallError → ε) :
    (.mk do return (← close ⟨path, true⟩).1.mapError refused : Attempt ε Unit).run.run m =
      (.ok (), m.record .close) := by
  have closed : (call (Program.perform .close)).run.run m = (.ok (), m.record .close) := by
    refine run_call_of_ok ?_
    show (m.record .close).onDevice (·.call .close) = _
    simp only [Machine.onDevice, Machine.record, calm.call_eq]
  show (((call (Program.perform .close)).run >>= _) >>= _).run m = _
  rw [Program.run_bind, Program.run_bind, closed]
  rfl

theorem run_exchange_of_ok {tag : Nat} {value : Option Block} {answer : Mailbox.Buffer}
    {d : Device}
    (answered : m.device.transfer (.request (.ofNat tag) value) = (.ok answer, d))
    (accepted : answer.code = Mailbox.success) :
    (exchange tag value).run.run m = (.ok answer.value,
      { m.record (.request (.ofBuffer (.request (.ofNat tag) value))) with device := d }) := by
  have replied : m.answer (.transfer (.request (.ofNat tag) value)) = (.ok answer,
      { m.record (.request (.ofBuffer (.request (.ofNat tag) value))) with device := d }) := by
    show (m.record _).onDevice (·.transfer _) = _
    simp only [Machine.onDevice, Machine.record, answered]
    rfl
  rw [run_exchange, replied, received, if_pos accepted]

theorem run_read (calm : m.device.Calm region path) : (read region).run.run m =
    (.ok (m.device.rows.get region), m.record (.request (.read region))) := by
  obtain ⟨answer, answered, accepted, value⟩ := calm.read (Request.ofBuffer_read region none)
  rw [read, run_exchange_of_ok answered accepted, value, Request.ofBuffer_read]
  rfl

theorem run_write (calm : m.device.Calm region path) (value : Block) :
    (write region value).run.run m = (.ok ((m.device.rows.burn region value).get region),
      (m.burn region value).record (.request (.write region value))) := by
  rw [write, run_exchange_of_ok (calm.transfer_write (Request.ofBuffer_write region value)) rfl,
    Request.ofBuffer_write, Mailbox.Buffer.value_answer]
  rfl

/-- A visit opens the file, reads the region and closes the file, all of which succeeds. -/
theorem run_visit (calm : m.device.Calm region path) :
    (visit region path).run.run m = (.ok (m.device.rows.get region), m.visit region path) := by
  simp only [visit, use, closing, Program.run_attempt_bind, run_openAt calm, Program.run_ensuring,
    run_read (m := m.record (.openAt path)) calm,
    run_close (m := (m.record (.openAt path)).record (.request (.read region))) calm]
  rfl

end Handle

/-! ## Media -/

namespace Medium

variable {region : Region} {path : String} {m : Machine} {value : Block}

/-- The machine after a look. -/
def looked (region : Region) (path : String) (m : Machine) : Machine :=
  (m.visit region path).note .debug
    s!"{region.name} OTP region is {(stateOf (m.device.rows.get region)).name}"

/-- To look at a region leaves the device of a calm machine as it is. -/
theorem device_looked (region : Region) (path : String) (m : Machine) :
    (looked region path m).device = m.device := rfl

theorem run_inspectRegion (calm : m.device.Calm region path) :
    (inspectRegion region path).run.run m =
      (.ok (stateOf (m.device.rows.get region)), looked region path m) := by
  rw [inspectRegion, Program.run_attempt_bind, Program.run_run_outcome, Handle.run_visit calm]
  rfl

theorem run_fetch (calm : m.device.Calm region path) (claim : ClaimId) :
    (otp region path claim).fetch.run.run m =
      (.ok ⟨m.device.rows.get region⟩, m.visit region path) := by
  rw [fetch, Program.run_attempt_bind, Program.run_adapt, Handle.run_visit calm]
  rfl

/-- The machine after the check that the region is blank. -/
def checked (region : Region) (m : Machine) : Machine :=
  (m.record (.request (.read region))).note .info s!"Programming the {region.name} OTP region"

/-- The machine after a value was burned and read back. -/
def burned (region : Region) (value : Block) (m : Machine) : Machine :=
  (((checked region m).burn region value).record (.request (.write region value))).record
    (.request (.read region))

/-- A value that is burned on a blank region is read back as it is. -/
theorem run_burn (calm : m.device.Calm region path)
    (blank : m.device.rows.get region = Block.zero) (value : Block) :
    (burn region value).run.run m = (.ok (), burned region value m) := by
  have empty : (m.device.rows.get region).isBlank = true := by
    rw [blank]
    decide
  have held : (m.device.rows.burn region value).get region = value := by
    rw [Rows.get_burn_same, blank, Block.burn_zero]
  have logged : (Program.log .info s!"Programming the {region.name} OTP region").run
      (m.record (.request (.read region))) = ((), checked region m) := rfl
  have written := Handle.run_write (m := checked region m) calm value
  have reread : (Handle.read region).run.run (((checked region m).burn region value).record
      (.request (.write region value))) = (.ok value, burned region value m) := by
    rw [Handle.run_read (calm.burnt value)]
    exact congrArg (fun seen => (Except.ok seen, burned region value m)) held
  rw [burn, Program.run_attempt_bind, Program.run_adapt, Handle.run_read calm]
  simp only [mapError_ok, empty, Bool.not_true, Bool.false_eq_true, ↓reduceIte]
  rw [Program.run_attempt_bind, Program.run_lift, logged, Program.run_attempt_bind,
    Program.run_adapt, Program.run_attempt_bind, written]
  simp only [reread, mapError_ok, ne_eq, not_true_eq_false, ↓reduceIte]
  rfl

/-- Under the lock the region is read, written and read again, and only the rows are left
changed. -/
theorem run_programRegion (calm : m.device.Calm region path)
    (blank : m.device.rows.get region = Block.zero) (value : Block) :
    (programRegion region path value).run.run m = (.ok (),
      (((burned region value ((m.record (.openAt path)).record .lock)).record .unlock).record
        .close).note .info s!"The {region.name} OTP region has been programmed") := by
  have locked := Handle.run_lock (m := m.record (.openAt path)) calm
  have burnt := run_burn (m := (m.record (.openAt path)).record .lock) calm blank value
  have unlocked := Handle.run_unlock
    (m := burned region value ((m.record (.openAt path)).record .lock)) (calm.burnt value)
  have closed := Handle.run_close
    (m := (burned region value ((m.record (.openAt path)).record .lock)).record .unlock)
    (calm.burnt value) fun err => Error.programmingFailed (.locking path err)
  rw [programRegion, Program.run_attempt_bind, Program.run_adapt, Handle.run_openAt calm]
  simp only [mapError_ok]
  rw [Program.run_attempt_bind, Handle.closing, Program.run_ensuring, Handle.locked,
    Program.run_attempt_bind, Program.run_adapt, locked]
  simp only [mapError_ok, Program.run_ensuring, burnt, Program.run_adapt, unlocked, closed]
  rfl

end Medium

end DeviceKeys
