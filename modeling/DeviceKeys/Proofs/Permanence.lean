import DeviceKeys.Proofs.WriteOnce

/-!
# Permanence

Where no other process is at work behind the locks, a region that is not blank holds what it holds
for good. `write_once` says which rows other processes add; here there are none, because no fault in
wait has another process program rows, and no move brings in such a fault. What is left is an
invariant of the world (`World.Settled`) that every move keeps which leaves the rows alone from
outside, whatever fails on the way.
-/

set_option autoImplicit false

namespace DeviceKeys

/-! ## Devices that no other process programs -/

/-- Whether a fault has another process program rows. -/
def FaultEffect.intrudes : FaultEffect → Bool
  | .program _ => true
  | .fail _ | .bend _ _ _ => false

def Device.Alone (d : Device) : Prop := ∀ fault ∈ d.faults, fault.effect.intrudes = false

namespace Device

variable {d : Device}

theorem alone_iff_effects : d.Alone ↔ ∀ effect ∈ d.effects, effect.intrudes = false := by
  rw [effects, List.forall_mem_map]
  rfl

theorem Alone.congr {d' : Device} (h : d.Alone) (same : d'.effects = d.effects) : d'.Alone :=
  alone_iff_effects.2 (same ▸ alone_iff_effects.1 h)

/-- Alone with the device, nobody else programs rows while the lock is waited for. -/
theorem Alone.foreign_eq_nil (h : d.Alone) : d.foreign = [] := by
  unfold foreign
  split
  · next values struck =>
    -- A fault that strikes is one of those in wait.
    have intrudes := alone_iff_effects.1 h _ (Fault.mem_of_strike struck)
    cases intrudes
  · rfl

end Device

theorem Moment.foreign_of_alone {q : Moment} (h : q.machine.device.Alone) : q.foreign = [] := by
  unfold foreign
  split
  · exact h.foreign_eq_nil
  · rfl

namespace Linked

variable {d d' : Device} {qs : List Moment}

theorem alone (h : Linked d qs d') (start : d.Alone) :
    (∀ q ∈ qs, q.machine.device.Alone) ∧ d'.Alone := by
  refine ⟨?_, start.congr h.effects⟩
  intro q mem
  exact start.congr (h.effects_of_mem q mem)

/-- Over calls that write blank regions only, a region that is not blank stays as it is. -/
theorem get_rows_of_alone (h : Linked d qs d') (start : d.Alone) (blank : ∀ q ∈ qs, q.WritesBlank)
    {region : Region} (filled : d.rows.get region ≠ Block.zero) :
    d'.rows.get region = d.rows.get region := by
  have none : qs.flatMap Moment.foreign = [] := by
    rw [List.flatMap_eq_nil_iff]
    intro q mem
    exact Moment.foreign_of_alone ((h.alone start).1 q mem)
  rw [h.get_rows blank filled, none]
  rfl

end Linked

/-! ## Settled regions -/

namespace Move

/-- No change of the device brings in a fault with which another process programs rows. -/
def Alone : Move → Prop
  | .step (.alterDevice change) =>
    ∀ faults, change.faults = some faults → ∀ fault ∈ faults, fault.effect.intrudes = false
  | _ => True

/-- A move that can do nothing to the rows of a region except through the library. -/
structure Tame (region : Region) (move : Move) : Prop where
  honest : move.Honest
  alone : move.Alone
  own : ¬move.WritesRaw
  keeps : move.Keeps region

end Move

namespace World

variable {w : World} {region : Region} {value : Block}

theorem alone_startOf {move : Move} (alone : w.machine.device.Alone) (fair : move.Alone) :
    (w.startOf move).device.Alone := by
  refine forall_faults_startOf alone ?_
  rintro change rfl
  exact fair

theorem alone_advance {move : Move} (alone : w.machine.device.Alone) (fair : move.Alone) :
    (w.advance move).machine.device.Alone :=
  ((linked_advance move).alone (alone_startOf alone fair)).2

/-- Fair moves leave the process alone with the device. -/
theorem alone_play {moves : List Move} (alone : w.machine.device.Alone)
    (fair : ∀ move ∈ moves, move.Alone) : (w.play moves).machine.device.Alone :=
  play_preserves (p := fun w => w.machine.device.Alone) (fun _ _ => alone_advance) alone fair

/-- A region that holds a value for good. -/
structure Settled (w : World) (region : Region) (value : Block) : Prop where
  honest : w.machine.device.Honest
  alone : w.machine.device.Alone
  holds : w.machine.device.rows.get region = value
  filled : value ≠ Block.zero

/-- What one move leaves of a settled region. -/
theorem Settled.advance (h : w.Settled region value) {move : Move} (tame : move.Tame region) :
    (w.advance move).Settled region value where
  honest := honest_advance h.honest tame.honest
  alone := alone_advance h.alone tame.alone
  filled := h.filled
  holds := by
    have start : (w.startOf move).device.rows.get region = value := by
      rw [rows_startOf tame.keeps, h.holds]
    have blank := writesBlank_of_not_writesRaw h.honest tame.honest tame.own
    rw [← start]
    apply (linked_advance move).get_rows_of_alone (alone_startOf h.alone tame.alone) blank
    rw [start]
    exact h.filled

/-- A settled region keeps its value along moves that are tame. -/
theorem Settled.play (h : w.Settled region value) {moves : List Move}
    (tame : ∀ move ∈ moves, move.Tame region) : (w.play moves).Settled region value :=
  play_preserves (p := fun w => w.Settled region value)
    (fun _ _ settled first => settled.advance first) h tame

theorem play_append (w : World) (moves others : List Move) :
    w.play (moves ++ others) = (w.play moves).play others := by
  induction moves generalizing w with
  | nil => rfl
  | cons move rest ih => exact ih (w.advance move)

end World

end DeviceKeys
