import DeviceKeys.Proofs.Ledger

/-!
# What a call does to an honest device

A device is honest if no fault in wait forges the value of an answer. Its calls may fail, its
firmware may refuse, take in another value than it was given, or find rows that another process has
programmed in the meantime; but a value that it does answer with is the one that its rows hold. No
call brings a forging fault in, so a device that starts honest stays so.

The rows change at two calls and no others: at a write that is carried out, and at a lock behind
which another process was at work (`Moment.foreign`). Everything here is about one call; what a
run does follows with `linked_calls`.
-/

set_option autoImplicit false

namespace DeviceKeys

/-! ## Burning -/

namespace Block

theorem burn_zero (value : Block) : burn zero value = value := by
  apply Vector.ext
  intro i hi
  simp [burn, zero]

/-- Nothing that is burned takes a bit away, so what is not blank stays so. -/
theorem burn_ne_zero {rows : Block} (value : Block) (h : rows ≠ zero) : burn rows value ≠ zero := by
  intro blank
  apply h
  apply Vector.ext
  intro i hi
  have byte : rows[i] ||| value[i] = 0 := by
    have := congrArg (fun b : Block => b[i]) blank
    simpa [burn, zero] using this
  have both := UInt8.or_eq_zero_iff.1 byte
  simpa [zero] using both.1

end Block

namespace Rows

variable {rows rows' : Rows} {region : Region}

@[simp] theorem get_burn_same (value : Block) :
    (rows.burn region value).get region = (rows.get region).burn value := by
  simp [burn]

@[simp] theorem get_burn_ne {other : Region} (value : Block) (h : other ≠ region) :
    (rows.burn region value).get other = rows.get other := by
  simp [burn, h]

theorem burnAll_append (first second : List (Region × Block)) :
    rows.burnAll (first ++ second) = (rows.burnAll first).burnAll second :=
  List.foldl_append

/-- What is burned into a region depends on no other region. -/
theorem get_burnAll_congr (values : List (Region × Block))
    (h : rows.get region = rows'.get region) :
    (rows.burnAll values).get region = (rows'.burnAll values).get region := by
  induction values generalizing rows rows' with
  | nil => exact h
  | cons value rest ih =>
    refine ih ?_
    obtain ⟨written, block⟩ := value
    by_cases same : region = written
    · subst same
      simp [h]
    · simp [same, h]

/-- However many processes program rows, a bit that is set stays set. -/
theorem get_burnAll_ne_zero (values : List (Region × Block)) (h : rows.get region ≠ Block.zero) :
    (rows.burnAll values).get region ≠ Block.zero := by
  induction values generalizing rows with
  | nil => exact h
  | cons value rest ih =>
    refine ih ?_
    obtain ⟨written, block⟩ := value
    by_cases same : region = written
    · subst same
      rw [get_burn_same]
      exact Block.burn_ne_zero block h
    · rwa [get_burn_ne block same]

/-- A region that is not among those that are exchanged keeps what it holds. -/
theorem get_foldl_set {values : List (Region × Block)} (h : ∀ value, (region, value) ∉ values) :
    (values.foldl (fun rows (region, value) => rows.set region value) rows).get region =
      rows.get region := by
  induction values generalizing rows with
  | nil => rfl
  | cons value rest ih =>
    obtain ⟨written, block⟩ := value
    have apart : region ≠ written := by
      rintro rfl
      exact h block List.mem_cons_self
    rw [List.foldl_cons, ih fun value mem => h value (List.mem_cons_of_mem _ mem)]
    exact get_set_ne rows block apart

end Rows

/-! ## Honesty -/

/-- Whether a fault has the firmware answer with a value of the fault's own. -/
def FaultEffect.forges : FaultEffect → Bool
  | .bend _ _ (some _) => true
  | .bend _ _ none | .fail _ | .program _ => false

def Device.Honest (d : Device) : Prop := ∀ fault ∈ d.faults, fault.effect.forges = false

namespace Fault

variable {point : FaultPoint} {region : Option Region}

theorem effect_meet (fault : Fault) (point : FaultPoint) (region : Option Region) :
    (fault.meet point region).2.effect = fault.effect := by
  unfold meet
  split
  · rfl
  · split
    · rfl
    · split <;> rfl

/-- Faults are used up, but no fault comes to do another thing. -/
theorem effects_strike (faults : List Fault) :
    (strike point region faults).2.map Fault.effect = faults.map Fault.effect := by
  induction faults with
  | nil => rfl
  | cons fault rest ih =>
    have kept := fault.effect_meet point region
    unfold strike
    split
    · next left met => simp [← kept, met]
    · next left met => simp [← kept, met, ih]

/-- What strikes was lying in wait. -/
theorem mem_of_strike {faults : List Fault} {effect : FaultEffect}
    (h : (strike point region faults).1 = some effect) : effect ∈ faults.map Fault.effect := by
  induction faults with
  | nil => cases h
  | cons fault rest ih =>
    unfold strike at h
    split at h
    · cases h
      exact List.mem_cons_self
    · exact List.mem_cons_of_mem _ (ih h)

end Fault

namespace Device

variable {d : Device}

/-- What the faults in wait can do, in their order. -/
def effects (d : Device) : List FaultEffect := d.faults.map Fault.effect

theorem honest_iff_effects : d.Honest ↔ ∀ effect ∈ d.effects, effect.forges = false := by
  rw [effects, List.forall_mem_map]
  rfl

/-- Honesty is a matter of effects, and not of how often they strike yet. -/
theorem Honest.congr {d' : Device} (h : d.Honest) (same : d'.effects = d.effects) : d'.Honest :=
  honest_iff_effects.2 (same ▸ honest_iff_effects.1 h)

/-! ## The calls of a device -/

@[simp] theorem rows_strike (point : FaultPoint) (region : Option Region) :
    (d.strike point region).2.rows = d.rows := rfl

@[simp] theorem effects_strike (point : FaultPoint) (region : Option Region) :
    (d.strike point region).2.effects = d.effects := Fault.effects_strike d.faults

theorem rows_call (point : FaultPoint) : (d.call point).2.rows = d.rows := by
  unfold call
  split <;> next eq => exact congrArg (·.2.rows) eq.symm

theorem effects_call (point : FaultPoint) : (d.call point).2.effects = d.effects := by
  rw [← d.effects_strike point none]
  unfold call
  split <;> next eq => exact congrArg (·.2.effects) eq.symm

theorem rows_openAt (path : String) : (d.openAt path).2.rows = d.rows := by
  unfold openAt
  split
  · exact rows_call .openAt
  · rfl

theorem effects_openAt (path : String) : (d.openAt path).2.effects = d.effects := by
  unfold openAt
  split
  · exact effects_call .openAt
  · rfl

/-- What another process programs before the next lock is granted. -/
def foreign (d : Device) : List (Region × Block) :=
  match (d.strike .lock none).1 with
  | some (.program values) => values
  | _ => []

/-- Besides a write, a lock is the one call behind which the rows can be others than in front. -/
theorem rows_lock : d.lock.2.rows = d.rows.burnAll d.foreign := by
  rw [← d.rows_strike .lock none]
  unfold lock foreign
  split <;> simp_all [Rows.burnAll]

theorem effects_lock : d.lock.2.effects = d.effects := by
  rw [← d.effects_strike .lock none]
  unfold lock
  split <;> next eq => exact congrArg (·.2.effects) eq.symm

/-- A transfer fails, or the firmware carries it out, bent in whichever way; either sees the rows
as they are. -/
theorem transfer_cases (d : Device) (buffer : Mailbox.Buffer) :
    ∃ d' : Device, d'.rows = d.rows ∧ d'.effects = d.effects ∧
      ((∃ errno, d.transfer buffer = (.error errno, d')) ∨
        ∃ code mask reply, (d.Honest → reply = none) ∧
          d.transfer buffer = (.ok (d'.carryOut buffer code mask reply).1,
            (d'.carryOut buffer code mask reply).2)) := by
  have rows := d.rows_strike (Request.ofBuffer buffer).point (Request.ofBuffer buffer).region?
  have effects := d.effects_strike (Request.ofBuffer buffer).point (Request.ofBuffer buffer).region?
  unfold transfer
  rcases struck : d.strike (Request.ofBuffer buffer).point (Request.ofBuffer buffer).region?
    with ⟨effect, d'⟩
  rw [struck] at rows effects
  refine ⟨d', rows, effects, ?_⟩
  simp only [struck]
  rcases effect with _ | (errno | values | ⟨code, mask, reply⟩)
  · exact .inr ⟨none, none, none, fun _ => rfl, rfl⟩
  · exact .inl ⟨errno, rfl⟩
  · exact .inr ⟨none, none, none, fun _ => rfl, rfl⟩
  · -- An honest device has no fault that would put a value of its own here.
    refine .inr ⟨code, mask, reply, fun honest => ?_, rfl⟩
    have unforged := honest_iff_effects.1 honest _ (Fault.mem_of_strike (congrArg (·.1) struck))
    cases reply with
    | none => rfl
    | some value => cases unforged

variable {buffer : Mailbox.Buffer} {code : Option UInt32} {mask reply : Option Block}

theorem effects_carryOut : (d.carryOut buffer code mask reply).2.effects = d.effects := by
  simp only [carryOut]
  split
  · rfl
  · split <;> rfl

/-- Faults are used up, but none is added and none is changed. -/
theorem effects_transfer : (d.transfer buffer).2.effects = d.effects := by
  obtain ⟨d', -, same, ⟨errno, eq⟩ | ⟨code, mask, reply, -, eq⟩⟩ := d.transfer_cases buffer
  · rw [eq, same]
  · rw [eq, ← same]
    exact effects_carryOut

/-- What the firmware burns into a region is another value than it was given if a fault bends it. -/
theorem rows_carryOut_write {region : Region} {value : Block}
    (h : Request.ofBuffer buffer = .write region value) :
    (d.carryOut buffer code mask reply).2.rows = d.rows ∨
      ∃ taken, (d.carryOut buffer code mask reply).2.rows = d.rows.burn region taken := by
  simp only [carryOut, h]
  split
  · exact .inl rfl
  · exact .inr ⟨_, rfl⟩

theorem rows_carryOut_of_not_write
    (h : ∀ region value, Request.ofBuffer buffer ≠ .write region value) :
    (d.carryOut buffer code mask reply).2.rows = d.rows := by
  simp only [carryOut]
  split
  · rfl
  · split
    · rfl
    · next region value eq => exact absurd eq (h region value)
    · rfl

/-- Unless a fault bends the reply, a read that is accepted gives what the region holds. -/
theorem value_carryOut_read {region : Region} (h : Request.ofBuffer buffer = .read region)
    (accepted : (d.carryOut buffer code mask none).1.code = Mailbox.success) :
    (d.carryOut buffer code mask none).1.value = d.rows.get region := by
  revert accepted
  simp only [carryOut, h]
  split
  · next rejected => exact fun accepted => absurd accepted rejected
  · exact fun _ => Mailbox.Buffer.value_answer _ _ _

end Device

/-! ## The calls of a run -/

namespace Moment

/-- What the rows hold when the question is put. -/
def rows (q : Moment) : Rows := q.machine.device.rows

/-- What another process programs while the call waits, which is nothing except at a lock. -/
def foreign (q : Moment) : List (Region × Block) :=
  match q.action with
  | .lock => q.machine.device.foreign
  | _ => []

variable {q : Moment}

theorem effects_after : q.after.device.effects = q.machine.device.effects := by
  obtain ⟨m, action⟩ := q
  cases action with
  | openAt path => exact Device.effects_openAt path
  | close | unlock => exact Device.effects_call _
  | lock => exact Device.effects_lock
  | transfer buffer => exact Device.effects_transfer
  | fileExists _ | draw | log _ | claim _ | release _ => rfl

/-- The frame of a call: except for a write, only another process changes rows. -/
theorem rows_after (h : q.written? = none) : q.after.device.rows = q.rows.burnAll q.foreign := by
  obtain ⟨m, action⟩ := q
  cases action with
  | openAt path => exact Device.rows_openAt path
  | close | unlock => exact Device.rows_call _
  | lock => exact Device.rows_lock
  | fileExists _ | draw | log _ | claim _ | release _ => rfl
  | transfer buffer =>
    have other : ∀ region value, Request.ofBuffer buffer ≠ .write region value := by
      intro region value eq
      have writes : (⟨m, .transfer buffer⟩ : Moment).written? = some (region, value) :=
        written?_eq_some.2 (by simp [event?, Action.event?, eq])
      rw [writes] at h
      cases h
    show (m.device.transfer buffer).2.rows = m.device.rows
    obtain ⟨d, same, -, ⟨errno, eq⟩ | ⟨code, mask, reply, -, eq⟩⟩ := m.device.transfer_cases buffer
    · rw [eq, same]
    · rw [eq, ← same]
      exact Device.rows_carryOut_of_not_write other

/-- A write burns something into its own region, if it burns at all. -/
theorem rows_after_write {region : Region} {value : Block}
    (h : q.written? = some (region, value)) :
    q.after.device.rows = q.rows ∨ ∃ taken, q.after.device.rows = q.rows.burn region taken := by
  obtain ⟨m, action⟩ := q
  cases action with
  | openAt _ | close | lock | unlock | fileExists _ | draw | log _ | claim _ | release _ => cases h
  | transfer buffer =>
    have writes : Request.ofBuffer buffer = .write region value := by
      simpa [event?, Action.event?] using written?_eq_some.1 h
    show (m.device.transfer buffer).2.rows = m.device.rows ∨
      ∃ taken, (m.device.transfer buffer).2.rows = m.device.rows.burn region taken
    obtain ⟨d, same, -, ⟨errno, eq⟩ | ⟨code, mask, reply, -, eq⟩⟩ := m.device.transfer_cases buffer
    · rw [eq, same]
      exact .inl rfl
    · rw [eq, ← same]
      exact Device.rows_carryOut_write writes

/-- An honest device answers a read with what the rows hold. -/
theorem Reads.rows_eq {region : Region} {value : Block} (reads : q.Reads region (.ok value))
    (honest : q.machine.device.Honest) : q.rows.get region = value := by
  obtain ⟨m, action⟩ := q
  obtain ⟨event, answer⟩ := reads
  cases action with
  | openAt _ | close | lock | unlock | fileExists _ | draw | log _ | claim _ | release _ =>
    cases event
  | transfer buffer =>
    have asked : Request.ofBuffer buffer = .read region := by
      simpa [event?, Action.event?] using event
    obtain ⟨d, same, -, ⟨errno, eq⟩ | ⟨code, mask, reply, unforged, eq⟩⟩ :=
      m.device.transfer_cases buffer
    · have failed : (⟨m, .transfer buffer⟩ : Moment).reply = .error errno := congrArg (·.1) eq
      rw [outcome, failed] at answer
      cases answer
    · obtain rfl := unforged honest
      have replied : (⟨m, .transfer buffer⟩ : Moment).reply =
          .ok (d.carryOut buffer code mask none).1 := congrArg (·.1) eq
      rw [outcome, replied] at answer
      change (if _ then _ else _) = _ at answer
      split at answer
      · next accepted =>
        rw [Device.value_carryOut_read asked accepted, same] at answer
        exact Except.ok.inj answer
      · cases answer

/-- Other processes come in where the lock is granted, and nowhere else. -/
theorem foreign_eq_nil (h : q.event? ≠ some .lock) : q.foreign = [] := by
  obtain ⟨m, action⟩ := q
  cases action with
  | lock => exact absurd rfl h
  | openAt _ | close | unlock | transfer _ | fileExists _ | draw | log _ | claim _ | release _ =>
    rfl

/-- A call that neither writes nor waits for the lock leaves all rows alone. -/
theorem rows_still (event : q.event? ≠ some .lock) (reads : q.written? = none) :
    q.after.device.rows = q.rows := by
  rw [rows_after reads, foreign_eq_nil event]
  rfl

/-- If the call writes a region, then the region is blank at that moment. -/
def WritesBlank (q : Moment) : Prop :=
  ∀ region value, q.written? = some (region, value) → q.rows.get region = Block.zero

theorem writesBlank_of_written? (h : q.written? = none) : q.WritesBlank := by
  intro region value writes
  rw [h] at writes
  cases writes

/-- What a region holds after a call that does not write it is what it held and what another
process programmed. -/
theorem get_rows_after {region : Region} (unwritten : ∀ value, q.written? ≠ some (region, value)) :
    q.after.device.rows.get region = (q.rows.burnAll q.foreign).get region := by
  cases writes : q.written? with
  | none => rw [rows_after writes]
  | some written =>
    obtain ⟨other, value⟩ := written
    have apart : region ≠ other := by
      rintro rfl
      exact unwritten value writes
    have alone : q.foreign = [] := foreign_eq_nil (by simp [written?_eq_some.1 writes])
    rw [alone]
    rcases rows_after_write writes with same | ⟨taken, burnt⟩
    · rw [same]
      rfl
    · rw [burnt, Rows.get_burn_ne taken apart]
      rfl

/-- A call that writes blank regions only does nothing to a region that is not blank. -/
theorem WritesBlank.get_rows_after (h : q.WritesBlank) {region : Region}
    (filled : q.rows.get region ≠ Block.zero) :
    q.after.device.rows.get region = (q.rows.burnAll q.foreign).get region :=
  Moment.get_rows_after fun value writes => filled (h region value writes)

end Moment

namespace Linked

variable {d d' : Device} {qs : List Moment}

/-- No call of a run puts a new fault in wait. -/
theorem effects (h : Linked d qs d') : d'.effects = d.effects := by
  induction qs generalizing d with
  | nil => rw [show d' = d from h]
  | cons q qs ih =>
    obtain ⟨rfl, rest⟩ := h
    rw [ih rest, Moment.effects_after]

theorem effects_of_mem (h : Linked d qs d') : ∀ q ∈ qs, q.machine.device.effects = d.effects := by
  induction qs generalizing d with
  | nil => exact fun _ mem => absurd mem List.not_mem_nil
  | cons q qs ih =>
    obtain ⟨rfl, rest⟩ := h
    refine List.forall_mem_cons.2 ⟨rfl, ?_⟩
    intro r mem
    rw [ih rest r mem, Moment.effects_after]

/-- A device that starts honest is honest at every call, and afterwards. -/
theorem honest (h : Linked d qs d') (start : d.Honest) :
    (∀ q ∈ qs, q.machine.device.Honest) ∧ d'.Honest :=
  ⟨fun q mem => start.congr (h.effects_of_mem q mem), start.congr h.effects⟩

/-- A run without a lock and without a write leaves the rows as they were. -/
theorem rows_still (h : Linked d qs d')
    (quiet : ∀ q ∈ qs, q.event? ≠ some .lock ∧ q.written? = none) : d'.rows = d.rows := by
  induction qs generalizing d with
  | nil => rw [show d' = d from h]
  | cons q qs ih =>
    obtain ⟨rfl, rest⟩ := h
    obtain ⟨⟨event, reads⟩, others⟩ := List.forall_mem_cons.1 quiet
    rw [ih rest others]
    exact Moment.rows_still event reads

/-- Over calls that do not write a region, it takes in what other processes program at the locks,
and nothing else. -/
theorem get_rows_of_unwritten (h : Linked d qs d') {region : Region}
    (unwritten : ∀ q ∈ qs, ∀ value, q.written? ≠ some (region, value)) :
    d'.rows.get region = (d.rows.burnAll (qs.flatMap Moment.foreign)).get region := by
  induction qs generalizing d with
  | nil =>
    rw [show d' = d from h]
    rfl
  | cons q qs ih =>
    obtain ⟨rfl, rest⟩ := h
    obtain ⟨first, others⟩ := List.forall_mem_cons.1 unwritten
    rw [ih rest others, List.flatMap_cons, Rows.burnAll_append]
    exact Rows.get_burnAll_congr _ (Moment.get_rows_after first)

/-- The same holds over calls that write blank regions only, if the region is not blank. -/
theorem get_rows (h : Linked d qs d') (blank : ∀ q ∈ qs, q.WritesBlank) {region : Region}
    (filled : d.rows.get region ≠ Block.zero) :
    d'.rows.get region = (d.rows.burnAll (qs.flatMap Moment.foreign)).get region := by
  induction qs generalizing d with
  | nil =>
    rw [show d' = d from h]
    rfl
  | cons q qs ih =>
    obtain ⟨rfl, rest⟩ := h
    obtain ⟨first, others⟩ := List.forall_mem_cons.1 blank
    -- What the first call leaves is not blank either, so the rest can be taken as one.
    have step := first.get_rows_after filled
    have still : q.after.device.rows.get region ≠ Block.zero :=
      step ▸ Rows.get_burnAll_ne_zero q.foreign filled
    rw [ih rest others still, List.flatMap_cons, Rows.burnAll_append]
    exact Rows.get_burnAll_congr _ step

end Linked

end DeviceKeys
