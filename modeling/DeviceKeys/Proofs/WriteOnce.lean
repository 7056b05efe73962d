import DeviceKeys.Proofs.Guarded

/-!
# Write once

A world is a machine that outlives the processes on it: one session, and between its steps any
number of command lines, each a process of its own. `World.advance` makes one move, `World.play`
makes moves in order, and the calls of a move are those of the program behind it, on the machine it
starts with.

What a move does to the device is what its calls do, since a program touches the device in no
other way. So the law of one call (`Moment.WritesBlank.get_rows_after`) is a law of all histories:
once a region is not blank, only another process or a change from outside changes what it holds.
-/

set_option autoImplicit false

namespace DeviceKeys

/-! ## Worlds -/

structure World where
  session : Session
  machine : Machine

inductive Move where
  | step (step : Step)
  /-- A command line runs as a process of its own. -/
  | invoke (time : String) (args : List String) (env : Environment)
  /-- The process of the session ends, and another one begins. -/
  | restart (env : Environment)

namespace World

/-- The session keeps its claims while a command line runs. A process that begins runs on the same
kind of system as the one that ended. -/
def advance (w : World) : Move → World
  | .step step => ⟨(w.session.advance w.machine step).2.1, (w.session.advance w.machine step).2.2⟩
  | .invoke time args env =>
    ⟨w.session, { (CommandLine.invoke time args env w.machine).2 with claims := w.machine.claims }⟩
  | .restart env => ⟨.start env w.session.closedCalls, { w.machine with claims := .none }⟩

def play (w : World) : List Move → World
  | [] => w
  | move :: rest => (w.advance move).play rest

/-- The machine on which the program of a move starts. -/
def startOf (w : World) : Move → Machine
  | .step (.alterDevice change) =>
    { w.machine.unrecorded with device := w.machine.device.alter change }
  | .step _ => w.machine.unrecorded
  | .invoke _ _ _ => { w.machine.unrecorded with claims := .none }
  | .restart _ => w.machine

def calls (w : World) (move : Move) : List Moment :=
  match move with
  | .step step => (w.session.perform step).calls (w.startOf move)
  | .invoke _ args env => (CommandLine.run args env).calls (w.startOf move)
  | .restart _ => []

/-- The calls of all moves, in order. -/
def history (w : World) : List Move → List Moment
  | [] => []
  | move :: rest => w.calls move ++ (w.advance move).history rest

variable {w : World}

theorem advance_step (step : Step) :
    w.advance (.step step) = ⟨((w.session.perform step).run (w.startOf (.step step))).1.2,
      ((w.session.perform step).run (w.startOf (.step step))).2⟩ := by
  cases step <;> rfl

/-- What every allowed move preserves is preserved by all of them in a row. -/
theorem play_preserves {p : World → Prop} {allowed : Move → Prop}
    (kept : ∀ (w : World) (move : Move), p w → allowed move → p (w.advance move)) (start : p w)
    {moves : List Move} (all : ∀ move ∈ moves, allowed move) : p (w.play moves) := by
  induction moves generalizing w with
  | nil => exact start
  | cons move rest ih =>
    obtain ⟨first, others⟩ := List.forall_mem_cons.1 all
    exact ih (kept w move start first) others

theorem linked_advance (move : Move) :
    Linked (w.startOf move).device (w.calls move) (w.advance move).machine.device := by
  cases move with
  | step step =>
    rw [advance_step]
    exact Program.linked_calls _ _
  | invoke time args env => exact Program.linked_calls _ _
  | restart env => rfl

end World

/-! ## Moves from outside -/

namespace Move

/-- No change of the device brings in a fault that forges answers. -/
def Honest : Move → Prop
  | .step (.alterDevice change) =>
    ∀ faults, change.faults = some faults → ∀ fault ∈ faults, fault.effect.forges = false
  | _ => True

/-- Whether the move hands the firmware a request of the caller's own making. -/
def IsRaw : Move → Prop
  | .step taken => taken.IsRaw
  | _ => False

/-- Whether the move hands the firmware a request to write of the caller's own making. -/
def WritesRaw : Move → Prop
  | .step taken => taken.WritesRaw
  | _ => False

theorem WritesRaw.isRaw {move : Move} (h : move.WritesRaw) : move.IsRaw := by
  cases move with
  | step taken => exact Step.WritesRaw.isRaw h
  | invoke time args env => exact absurd h not_false
  | restart env => exact absurd h not_false

/-- Whether the move, if it changes the device from outside, keeps what a region holds. -/
def Keeps (region : Region) : Move → Prop
  | .step (.alterDevice change) => ∀ value, (region, value) ∉ change.rows
  | _ => True

end Move

namespace World

variable {w : World}

/-- Either the faults stay as they are, or a change brings the new ones. -/
theorem forall_faults_startOf {p : Fault → Prop} {move : Move}
    (held : ∀ fault ∈ w.machine.device.faults, p fault)
    (brought : ∀ change, move = .step (.alterDevice change) →
      ∀ faults, change.faults = some faults → ∀ fault ∈ faults, p fault) :
    ∀ fault ∈ (w.startOf move).device.faults, p fault := by
  cases move with
  | invoke time args env => exact held
  | restart env => exact held
  | step step =>
    cases step with
    | alterDevice change =>
      cases given : change.faults with
      | none => simpa [startOf, Device.alter, given] using held
      | some faults => simpa [startOf, Device.alter, given] using brought change rfl faults given
    | _ => exact held

theorem honest_startOf {move : Move} (honest : w.machine.device.Honest) (fair : move.Honest) :
    (w.startOf move).device.Honest := by
  refine forall_faults_startOf honest ?_
  rintro change rfl
  exact fair

theorem honest_advance {move : Move} (honest : w.machine.device.Honest) (fair : move.Honest) :
    (w.advance move).machine.device.Honest :=
  ((linked_advance move).honest (honest_startOf honest fair)).2

theorem honest_play {moves : List Move} (honest : w.machine.device.Honest)
    (fair : ∀ move ∈ moves, move.Honest) : (w.play moves).machine.device.Honest :=
  play_preserves (p := fun w => w.machine.device.Honest) (fun _ _ => honest_advance) honest fair

theorem rows_startOf {move : Move} {region : Region} (keeps : move.Keeps region) :
    (w.startOf move).device.rows.get region = w.machine.device.rows.get region := by
  cases move with
  | invoke time args env => rfl
  | restart env => rfl
  | step step =>
    cases step with
    | alterDevice change => exact Rows.get_foldl_set keeps
    | _ => rfl

/-! ## The law -/

theorem writesBlank_of_not_writesRaw {move : Move} (honest : w.machine.device.Honest)
    (fair : move.Honest) (own : ¬move.WritesRaw) : ∀ q ∈ w.calls move, q.WritesBlank := by
  cases move with
  | step step =>
    have own : ¬step.WritesRaw := own
    exact w.session.guarded_perform own _ (honest_startOf honest fair)
  | invoke time args env => exact CommandLine.guarded_run args env _ (honest_startOf honest fair)
  | restart env => exact List.forall_mem_nil _

theorem writesBlank_calls {move : Move} (honest : w.machine.device.Honest) (fair : move.Honest)
    (own : ¬move.IsRaw) : ∀ q ∈ w.calls move, q.WritesBlank :=
  writesBlank_of_not_writesRaw honest fair (mt Move.WritesRaw.isRaw own)

/-- One move: a region that is not blank takes in what other processes program at the locks. -/
theorem rows_advance {move : Move} {region : Region} (honest : w.machine.device.Honest)
    (fair : move.Honest) (own : ¬move.IsRaw) (keeps : move.Keeps region)
    (filled : w.machine.device.rows.get region ≠ Block.zero) :
    (w.advance move).machine.device.rows.get region =
      (w.machine.device.rows.burnAll ((w.calls move).flatMap Moment.foreign)).get region := by
  rw [← rows_startOf keeps] at filled
  rw [(linked_advance move).get_rows (writesBlank_calls honest fair own) filled]
  exact Rows.get_burnAll_congr _ (rows_startOf keeps)

theorem rows_play {moves : List Move} {region : Region} (honest : w.machine.device.Honest)
    (fair : ∀ move ∈ moves, move.Honest ∧ ¬move.IsRaw ∧ move.Keeps region)
    (filled : w.machine.device.rows.get region ≠ Block.zero) :
    (w.play moves).machine.device.rows.get region =
      (w.machine.device.rows.burnAll ((w.history moves).flatMap Moment.foreign)).get region := by
  induction moves generalizing w with
  | nil => rfl
  | cons move rest ih =>
    obtain ⟨⟨first, own, keeps⟩, others⟩ := List.forall_mem_cons.1 fair
    -- The region is still not blank after the first move, which the rest of the history needs.
    have step := rows_advance honest first own keeps filled
    have still := step ▸ Rows.get_burnAll_ne_zero ((w.calls move).flatMap Moment.foreign) filled
    rw [play, ih (honest_advance honest first) others still, history, List.flatMap_append,
      Rows.burnAll_append]
    exact Rows.get_burnAll_congr _ step

/-- Wherever honest moves have led, no move but a raw request writes a region that is not blank at
that moment, and from then on a region that is not blank holds what it held and what others add. -/
theorem write_once (w : World) (honest : w.machine.device.Honest) (before : List Move)
    (fair : ∀ move ∈ before, move.Honest) :
    (∀ move, move.Honest → ¬move.IsRaw → ∀ q ∈ (w.play before).calls move, ∀ region value,
      q.event? = some (.request (.write region value)) → q.rows.get region = Block.zero) ∧
    ∀ region, (w.play before).machine.device.rows.get region ≠ Block.zero → ∀ after,
      (∀ move ∈ after, move.Honest ∧ ¬move.IsRaw ∧ move.Keeps region) →
        ((w.play before).play after).machine.device.rows.get region =
          ((w.play before).machine.device.rows.burnAll
            (((w.play before).history after).flatMap Moment.foreign)).get region := by
  have honestly := honest_play honest fair
  refine ⟨fun move first own q mem region value writes => ?_, fun region filled after others => ?_⟩
  · exact writesBlank_calls honestly first own q mem region value (Moment.written?_eq_some.2 writes)
  · exact rows_play honestly others filled

/-- A process that has done nothing, and a blank device. -/
def first : World := ⟨.start .unset, .start .blank []⟩

/-- The command line that provides the private-key region. -/
def init : Move := .invoke "" ["init"] .unset

theorem write_once_init :
    first.machine.device.Honest ∧ (∀ move ∈ [init], move.Honest) ∧
      (first.play [init]).machine.device.rows.get .privateKey ≠ Block.zero ∧
      (∀ move ∈ [init], move.Honest ∧ ¬move.IsRaw ∧ move.Keeps .privateKey) ∧
      (∀ q ∈ (first.play []).calls init, ∀ region value,
        q.event? = some (.request (.write region value)) → q.rows.get region = Block.zero) ∧
      ((first.play [init]).play [init]).machine.device.rows.get .privateKey =
        ((first.play [init]).machine.device.rows.burnAll
          (((first.play [init]).history [init]).flatMap Moment.foreign)).get .privateKey := by
  have honest : first.machine.device.Honest := List.forall_mem_nil _
  have fair : ∀ move ∈ [init], move.Honest := List.forall_mem_singleton.2 trivial
  have filled : (first.play [init]).machine.device.rows.get .privateKey ≠ Block.zero := by
    decide +kernel
  have others : ∀ move ∈ [init], move.Honest ∧ ¬move.IsRaw ∧ move.Keeps .privateKey :=
    List.forall_mem_singleton.2 ⟨trivial, not_false, trivial⟩
  refine ⟨honest, fair, filled, others, ?_, ?_⟩
  · exact (write_once first honest [] (List.forall_mem_nil _)).1 init trivial not_false
  · exact (write_once first honest [init] fair).2 .privateKey filled [init] others

end World

end DeviceKeys
