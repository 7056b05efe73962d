import DeviceKeys.Proofs.Honesty
import DeviceKeys.Proofs.Lockstep

/-!
# Devices that agree on a region

Two devices agree on a region if they differ in nothing but the other one: in what it holds, in
whether it is offered, and in the faults that wait for it alone. A call that is about the region,
or about no region, has the same answer on both and leaves devices that agree
(`Machine.Agrees.answer`).

The delicate part is the faults. Those that wait for the other region can stand anywhere among the
rest, so the lists of two devices match in no position; but such a fault lets every call of this
region pass, and a list met by such a call can be read without them (`Fault.strike_filter`).
-/

set_option autoImplicit false

namespace DeviceKeys

/-! ## Faults -/

namespace Fault

/-- Whether a fault can meet a call of this region; one that waits for another region cannot. -/
def concerns (region : Region) (fault : Fault) : Bool := fault.region.all (· == region)

variable {point : FaultPoint} {region : Region} {asked : Option Region}

theorem region_meet (fault : Fault) : (fault.meet point asked).2.region = fault.region := by
  unfold meet
  split
  · rfl
  · split
    · rfl
    · split <;> rfl

theorem concerns_meet (fault : Fault) :
    (fault.meet point asked).2.concerns region = fault.concerns region := by
  rw [concerns, region_meet, concerns]

/-- A fault that waits for another region lets the calls of this one pass, and those of none. -/
theorem meet_of_elsewhere {fault : Fault} (elsewhere : fault.concerns region = false)
    (within : asked.all (· == region) = true) : fault.meet point asked = (false, fault) := by
  obtain ⟨waits, restricted, skip, times, effect⟩ := fault
  cases restricted with
  | none => cases elsewhere
  | some other =>
    have unseen : (some other == asked) = false := by
      cases asked with
      | none => rfl
      | some here =>
        obtain rfl : here = region := eq_of_beq within
        exact elsewhere
    simp [meet, sees, unseen]

/-- What a call of a region meets among faults, it meets among those that concern the region. -/
theorem strike_filter (point : FaultPoint) (within : asked.all (· == region) = true)
    (faults : List Fault) :
    strike point asked (faults.filter (concerns region)) =
      ((strike point asked faults).1, (strike point asked faults).2.filter (concerns region)) := by
  induction faults with
  | nil => rfl
  | cons fault rest ih =>
    cases concerned : fault.concerns region with
    | false =>
      -- The fault is not on the shorter list, and on the longer one the call passes it by.
      rw [List.filter_cons_of_neg (by simp [concerned]), ih]
      simp [strike, meet_of_elsewhere concerned within, concerned]
    | true =>
      have kept : (fault.meet point asked).2.concerns region = true := by
        rw [concerns_meet, concerned]
      rw [List.filter_cons_of_pos concerned]
      rcases met : fault.meet point asked with ⟨struck, left⟩
      rw [met] at kept
      cases struck with
      | true => simp [strike, met, kept]
      | false => simp [strike, met, kept, ih]

end Fault

/-! ## Devices -/

/-- Devices that differ in nothing but the other region. -/
structure Device.Agrees (region : Region) (d d' : Device) : Prop where
  present : d'.present = d.present
  path : d'.path = d.path
  rows : d'.rows.get region = d.rows.get region
  offered : region ∈ d'.unavailable ↔ region ∈ d.unavailable
  faults : d'.faults.filter (Fault.concerns region) = d.faults.filter (Fault.concerns region)

/-- The other region may be programmed, withdrawn and faulty, each on one of the devices only. -/
example : Device.blank.Agrees .privateKey { Device.blank with
    rows := ⟨Block.zero, Vector.replicate 32 255⟩
    unavailable := [.customer]
    faults := [⟨.read, some .customer, 0, none, .fail 5⟩] } :=
  ⟨rfl, rfl, rfl, by simp [Device.blank], rfl⟩

namespace Device

variable {region : Region} {d d' : Device}

namespace Agrees

theorem hasFile (h : d.Agrees region d') (path : String) : d'.hasFile path = d.hasFile path := by
  rw [Device.hasFile, Device.hasFile, h.present, h.path]

/-- Both meet the same fault, if any. -/
theorem strike (h : d.Agrees region d') (point : FaultPoint) (asked : Option Region)
    (within : asked.all (· == region) = true) :
    ∃ effect e e', d.strike point asked = (effect, e) ∧ d'.strike point asked = (effect, e') ∧
      e.Agrees region e' := by
  have left := Fault.strike_filter point within d.faults
  have right := Fault.strike_filter point within d'.faults
  rw [h.faults, left] at right
  obtain ⟨effects, faults⟩ := Prod.mk.inj right
  refine ⟨(d.strike point asked).1, (d.strike point asked).2, (d'.strike point asked).2, rfl, ?_,
    ?_⟩
  · exact Prod.ext effects.symm rfl
  · exact ⟨h.present, h.path, h.rows, h.offered, faults.symm⟩

theorem call (h : d.Agrees region d') (point : FaultPoint) :
    (d'.call point).1 = (d.call point).1 ∧ (d.call point).2.Agrees region (d'.call point).2 := by
  obtain ⟨effect, e, e', left, right, agree⟩ := h.strike point none rfl
  rw [Device.call, Device.call, left, right]
  rcases effect with _ | (errno | values | ⟨code, mask, reply⟩) <;> exact ⟨rfl, agree⟩

theorem openAt (h : d.Agrees region d') (path : String) :
    (d'.openAt path).1 = (d.openAt path).1 ∧
      (d.openAt path).2.Agrees region (d'.openAt path).2 := by
  rw [Device.openAt, Device.openAt, h.hasFile path]
  split
  · exact h.call .openAt
  · exact ⟨rfl, h⟩

/-- Rows that another process programs are the same on both where it matters. -/
theorem lock (h : d.Agrees region d') :
    d'.lock.1 = d.lock.1 ∧ d.lock.2.Agrees region d'.lock.2 := by
  obtain ⟨effect, e, e', left, right, agree⟩ := h.strike .lock none rfl
  rw [Device.lock, Device.lock, left, right]
  rcases effect with _ | (errno | values | ⟨code, mask, reply⟩)
  · exact ⟨rfl, agree⟩
  · exact ⟨rfl, agree⟩
  · refine ⟨rfl, agree.present, agree.path, ?_, agree.offered, agree.faults⟩
    exact Rows.get_burnAll_congr values agree.rows
  · exact ⟨rfl, agree⟩

variable {buffer : Mailbox.Buffer}

theorem answerCode (h : d.Agrees region d') {request : Request}
    (within : request.region? = some region) (bent : Option UInt32) :
    d'.answerCode request bent = d.answerCode request bent := by
  have offered : d'.unavailable.contains region = d.unavailable.contains region := by
    rw [Bool.eq_iff_iff, List.contains_iff_mem, List.contains_iff_mem]
    exact h.offered
  simp only [Device.answerCode, within, offered]

/-- A request within the region is answered from its rows, on which both agree. -/
theorem carryOut (h : d.Agrees region d')
    (within : (Request.ofBuffer buffer).region? = some region) (code : Option UInt32)
    (mask reply : Option Block) :
    (d'.carryOut buffer code mask reply).1 = (d.carryOut buffer code mask reply).1 ∧
      (d.carryOut buffer code mask reply).2.Agrees region
        (d'.carryOut buffer code mask reply).2 := by
  simp only [Device.carryOut, h.answerCode within]
  split
  · exact ⟨rfl, h⟩
  · cases asked : Request.ofBuffer buffer with
    | unknown tag =>
      rw [asked] at within
      cases within
    | read own =>
      rw [asked] at within
      obtain rfl : own = region := Option.some.inj within
      simp only [h.rows]
      exact ⟨trivial, h⟩
    | write own value =>
      rw [asked] at within
      obtain rfl : own = region := Option.some.inj within
      simp only [Rows.get_burn_same, h.rows]
      refine ⟨trivial, h.present, h.path, ?_, h.offered, h.faults⟩
      simp only [Rows.get_burn_same, h.rows]

/-- The faults that such a request can meet are the same on both. -/
theorem transfer (h : d.Agrees region d')
    (within : (Request.ofBuffer buffer).region? = some region) :
    (d'.transfer buffer).1 = (d.transfer buffer).1 ∧
      (d.transfer buffer).2.Agrees region (d'.transfer buffer).2 := by
  have seen : (Request.ofBuffer buffer).region?.all (· == region) = true := by
    rw [within]
    exact beq_self_eq_true region
  obtain ⟨effect, e, e', left, right, agree⟩ := h.strike (Request.ofBuffer buffer).point _ seen
  have carried := agree.carryOut within
  -- Whatever the fault does to the request, it does on both devices.
  rw [Device.transfer, Device.transfer]
  simp only [left, right]
  rcases effect with _ | (errno | values | ⟨code, mask, reply⟩)
  · exact ⟨congrArg Except.ok (carried none none none).1, (carried none none none).2⟩
  · exact ⟨rfl, agree⟩
  · exact ⟨congrArg Except.ok (carried none none none).1, (carried none none none).2⟩
  · exact ⟨congrArg Except.ok (carried code mask reply).1, (carried code mask reply).2⟩

end Agrees

/-! ## What no call changes

Calls program rows and use up faults. The rest of a device is the same for ever. -/

/-- Whether there is a file, where it is, and which regions the firmware does not offer. -/
def fixture (d : Device) : Bool × String × List Region := (d.present, d.path, d.unavailable)

theorem fixture_call (point : FaultPoint) : (d.call point).2.fixture = d.fixture := by
  unfold Device.call
  split <;> next eq => exact congrArg (·.2.fixture) eq.symm

theorem fixture_openAt (path : String) : (d.openAt path).2.fixture = d.fixture := by
  unfold Device.openAt
  split
  · exact fixture_call .openAt
  · rfl

theorem fixture_lock : d.lock.2.fixture = d.fixture := by
  unfold Device.lock
  split <;> next eq => exact congrArg (·.2.fixture) eq.symm

theorem fixture_carryOut (buffer : Mailbox.Buffer) (code : Option UInt32)
    (mask reply : Option Block) :
    (d.carryOut buffer code mask reply).2.fixture = d.fixture := by
  simp only [Device.carryOut]
  split
  · rfl
  · split <;> rfl

theorem fixture_transfer (buffer : Mailbox.Buffer) :
    (d.transfer buffer).2.fixture = d.fixture := by
  rcases struck : d.strike (Request.ofBuffer buffer).point (Request.ofBuffer buffer).region?
    with ⟨effect, e⟩
  have same : e.fixture = d.fixture := congrArg (·.2.fixture) struck.symm
  simp only [Device.transfer, struck]
  rcases effect with _ | (errno | values | ⟨code, mask, reply⟩)
  · exact (fixture_carryOut buffer none none none).trans same
  · exact same
  · exact (fixture_carryOut buffer none none none).trans same
  · exact (fixture_carryOut buffer code mask reply).trans same

/-- A device and what calls left of it agree on a region, if they hold the same there and the same
faults are still in wait for it. -/
theorem agrees_of_fixture (same : d'.fixture = d.fixture)
    (rows : d'.rows.get region = d.rows.get region)
    (faults : d'.faults.filter (Fault.concerns region) =
      d.faults.filter (Fault.concerns region)) : d.Agrees region d' := by
  obtain ⟨present, rest⟩ := Prod.mk.inj same
  obtain ⟨path, unavailable⟩ := Prod.mk.inj rest
  exact ⟨present, path, rows, by rw [unavailable], faults⟩

end Device

theorem Moment.fixture_after {q : Moment} :
    q.after.device.fixture = q.machine.device.fixture := by
  obtain ⟨m, action⟩ := q
  cases action with
  | openAt path => exact Device.fixture_openAt path
  | close | unlock => exact Device.fixture_call _
  | lock => exact Device.fixture_lock
  | transfer buffer => exact Device.fixture_transfer buffer
  | fileExists _ | draw | log _ | claim _ | release _ => rfl

/-- A run leaves file and firmware as they are. -/
theorem Linked.fixture {d d' : Device} {qs : List Moment} (h : Linked d qs d') :
    d'.fixture = d.fixture := by
  induction qs generalizing d with
  | nil => rw [show d' = d from h]
  | cons q qs ih =>
    obtain ⟨rfl, rest⟩ := h
    rw [ih rest, Moment.fixture_after]

/-! ## Machines -/

/-- Machines that differ in nothing but the other region of their devices. -/
structure Machine.Agrees (region : Region) (m m' : Machine) : Prop where
  device : m.device.Agrees region m'.device
  rest : m' = { m with device := m'.device }

/-- Whether a question is about no other region. -/
def Action.Within (region : Region) : Action → Prop
  | .transfer buffer => (Request.ofBuffer buffer).region? = some region
  | _ => True

/-- A question that is about no other region tells apart none of them. -/
theorem Machine.Agrees.answer {region : Region} {m m' : Machine} {action : Action}
    (h : m.Agrees region m') (within : action.Within region) :
    (m'.answer action).1 = (m.answer action).1 ∧
      (m.answer action).2.Agrees region (m'.answer action).2 := by
  obtain ⟨d, draws, claims, events, log⟩ := m
  obtain ⟨d', _, _, _, _⟩ := m'
  obtain ⟨device, rest⟩ := h
  cases rest
  cases action with
  | openAt path =>
    obtain ⟨reply, agree⟩ := device.openAt path
    exact ⟨reply, agree, rfl⟩
  | close =>
    obtain ⟨reply, agree⟩ := device.call .close
    exact ⟨reply, agree, rfl⟩
  | lock =>
    obtain ⟨reply, agree⟩ := device.lock
    exact ⟨reply, agree, rfl⟩
  | unlock =>
    obtain ⟨reply, agree⟩ := device.call .unlock
    exact ⟨reply, agree, rfl⟩
  | transfer buffer =>
    obtain ⟨reply, agree⟩ := device.transfer within
    exact ⟨reply, agree, rfl⟩
  | fileExists path => exact ⟨device.hasFile path, device, rfl⟩
  | draw | log _ | claim _ | release _ => exact ⟨rfl, device, rfl⟩

end DeviceKeys
