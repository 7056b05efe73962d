import DeviceKeys.Proofs.Calm
import DeviceKeys.Proofs.Permanence

/-!
# A region that was provided with a secret can be used

Three things in the library tell whether a region has a secret: the check of what was written, the
look at the state, and the refusal of a secret of zeros. They agree on every value but one. A draw
of zeros passes the check, since it reads back as it was written, and so providing the region ends
in success; but to the other two the region is as blank as before.

With any other draw, and wherever the region had a secret already, the region is usable from then on
(`Keeper.Usable`): each keeper of it sees it programmed, derives its keys from exactly what the rows
hold, and never writes to it again, whatever else is done with the device in the meantime.
-/

set_option autoImplicit false

namespace DeviceKeys

/-! ## Keepers on a calm device -/

theorem Medium.stateOf_of_filled {value : Block} (filled : value ≠ Block.zero) :
    stateOf value = .programmed := by
  have found : value.isBlank = false := by simpa [Block.isBlank] using filled
  rw [stateOf, found]
  rfl

namespace Keeper

variable {settings : Settings} {region : Region} {path : String} {claim : ClaimId} {m : Machine}
  {label : Label}

theorem run_state (calm : m.device.Calm region path) :
    (state ⟨settings, .otp region path claim⟩).run.run m =
      (.ok (Medium.stateOf (m.device.rows.get region)), Medium.looked region path m) :=
  Medium.run_inspectRegion calm

/-! ### Where the rows are not zeros -/

section

variable (calm : m.device.Calm region path) (filled : m.device.rows.get region ≠ Block.zero)
include calm filled

theorem run_state_of_filled : (state ⟨settings, .otp region path claim⟩).run.run m =
    (.ok .programmed, Medium.looked region path m) := by
  rw [run_state calm, Medium.stateOf_of_filled filled]

theorem run_isProvided_of_filled :
    ((isProvided ⟨settings, .otp region path claim⟩).run.run m).1 = .ok true := by
  rw [isProvided, Program.run_attempt_bind, run_state_of_filled calm filled]
  rfl

theorem run_secret_of_filled : (secret ⟨settings, .otp region path claim⟩).run.run m =
    (.ok ⟨m.device.rows.get region⟩, (Medium.looked region path m).visit region path) := by
  have fetched := Medium.run_fetch (m := Medium.looked region path m) calm claim
  have found : (RootSecret.mk ((Medium.looked region path m).device.rows.get region)).isBlank =
      false := by
    rw [Medium.device_looked]
    simpa [RootSecret.isBlank, Block.isBlank] using filled
  rw [secret, Program.run_attempt_bind, run_state_of_filled calm filled]
  simp only [Program.run_attempt_bind, fetched, found, Bool.false_eq_true, ↓reduceIte]
  rfl

/-- A key of any length in range is made of what the region holds. -/
theorem run_key_of_filled {length : Int} (least : 0 ≤ length) (most : length ≤ Key.longest) :
    ((key ⟨settings, .otp region path claim⟩ label length).run.run m).1 =
      .ok (Key.material ⟨m.device.rows.get region⟩ label length.toNat settings.salt) := by
  have derived : Key.ofLength ⟨m.device.rows.get region⟩ label length settings.salt =
      .ok (Key.material ⟨m.device.rows.get region⟩ label length.toNat settings.salt) := by
    rw [Key.ofLength, if_neg (by omega)]
  rw [key, Program.run_attempt_bind, run_secret_of_filled calm filled]
  simp only [derived]
  rfl

theorem run_uuid_of_filled : ((uuid ⟨settings, .otp region path claim⟩ label).run.run m).1 =
    .ok (Key.uuid ⟨m.device.rows.get region⟩ label settings.salt) := by
  rw [uuid, Program.run_attempt_bind, run_secret_of_filled calm filled]
  rfl

/-- A filled region is left as it is. -/
theorem run_provide_of_filled (settings : Settings) (claim : ClaimId) :
    (provide ⟨settings, .otp region path claim⟩).run.run m =
      (.ok .alreadyProgrammed, (Medium.looked region path m).note .info
        s!"Device secret ({region.name}) already initialized") := by
  rw [provide, Program.run_attempt_bind, Program.run_adapt, run_state_of_filled calm filled]
  rfl

end

/-! ### Where they are zeros -/

/-- The machine after a draw. -/
def drawn (m : Machine) : Machine := { m.record .random with draws := m.draws.tail }

/-- Any draw is taken for a secret. -/
theorem run_provide_of_blank (settings : Settings) (claim : ClaimId)
    (calm : m.device.Calm region path) (blank : m.device.rows.get region = Block.zero) :
    ∃ m', (provide ⟨settings, .otp region path claim⟩).run.run m = (.ok .programmed, m') ∧
      m'.device = { m.device with
        rows := m.device.rows.burn region (m.draws.headD Machine.standardDraw) } := by
  have empty : Medium.stateOf (m.device.rows.get region) = .blank := by
    rw [blank]
    decide
  have drew : (Program.perform .draw).run (Medium.looked region path m) =
      (m.draws.headD Machine.standardDraw, drawn (Medium.looked region path m)) := rfl
  have programmed := Medium.run_programRegion (m := drawn (Medium.looked region path m)) calm blank
    (m.draws.headD Machine.standardDraw)
  rw [provide, Program.run_attempt_bind, Program.run_adapt, run_state calm, empty]
  simp only [mapError_ok]
  rw [provideFresh, Program.run_attempt_bind, Program.run_lift, drew]
  simp only [Program.run_attempt_bind, Program.run_run_outcome, Medium.program_toList, programmed]
  exact ⟨_, rfl, rfl⟩

/-! ## Usable regions -/

/-- Every keeper of the region finds it programmed, derives keys from what its rows hold, and leaves
it as it is. -/
structure Usable (region : Region) (path : String) (m : Machine) : Prop where
  state : ∀ settings claim,
    ((Keeper.state ⟨settings, .otp region path claim⟩).run.run m).1 = .ok .programmed
  isProvided : ∀ settings claim,
    ((Keeper.isProvided ⟨settings, .otp region path claim⟩).run.run m).1 = .ok true
  key : ∀ settings claim label length, 0 ≤ length → length ≤ 16320 →
    ((Keeper.key ⟨settings, .otp region path claim⟩ label length).run.run m).1 =
      .ok (Key.material ⟨m.device.rows.get region⟩ label length.toNat settings.salt)
  uuid : ∀ settings claim label,
    ((Keeper.uuid ⟨settings, .otp region path claim⟩ label).run.run m).1 =
      .ok (Key.uuid ⟨m.device.rows.get region⟩ label settings.salt)
  provide : ∀ settings claim,
    ((Keeper.provide ⟨settings, .otp region path claim⟩).run.run m).1 = .ok .alreadyProgrammed ∧
      ((Keeper.provide ⟨settings, .otp region path claim⟩).run.calls m).filterMap
        Moment.written? = []

/-- On a calm device all that is needed of a region is that it is not blank. -/
theorem usable_iff_filled (calm : m.device.Calm region path) :
    Usable region path m ↔ m.device.rows.get region ≠ Block.zero := by
  constructor
  · intro usable blank
    have seen := usable.state .standard 0
    rw [run_state calm, blank] at seen
    cases seen
  · intro filled
    refine ⟨?_, ?_, ?_, ?_, ?_⟩
    · intro settings claim
      rw [run_state_of_filled calm filled]
    · intro settings claim
      exact run_isProvided_of_filled calm filled
    · intro settings claim label length least most
      exact run_key_of_filled calm filled least most
    · intro settings claim label
      exact run_uuid_of_filled calm filled
    · intro settings claim
      have already := run_provide_of_filled calm filled settings claim
      have ways := provided settings region path claim m
      rw [already] at ways ⊢
      obtain unwritten | ⟨value, -, outcome | ⟨cause, outcome⟩⟩ := ways.written
      · exact ⟨rfl, unwritten⟩
      · cases outcome
      · cases outcome

end Keeper

/-! ## Later moves -/

/-- A move that goes through the library: neither a change of the device from outside nor a write
of the caller's own making. -/
def Move.Internal (move : Move) : Prop :=
  ¬move.WritesRaw ∧ ∀ change, move ≠ .step (.alterDevice change)

theorem Move.Internal.tame {move : Move} (h : move.Internal) (region : Region) :
    move.Tame region := by
  obtain ⟨own, inside⟩ := h
  cases move with
  | invoke time args env => exact ⟨trivial, trivial, own, trivial⟩
  | restart env => exact ⟨trivial, trivial, own, trivial⟩
  | step step =>
    cases step with
    | alterDevice change => exact absurd rfl (inside change)
    | _ => exact ⟨trivial, trivial, own, trivial⟩

namespace World

variable {w : World} {region : Region} {path : String}

/-- A move of the library's own leaves a calm device calm. -/
theorem calm_advance {move : Move} (calm : w.machine.device.Calm region path)
    (internal : move.Internal) : (w.advance move).machine.device.Calm region path := by
  refine (linked_advance move).calm ?_
  cases move with
  | invoke time args env => exact calm
  | restart env => exact calm
  | step step =>
    cases step with
    | alterDevice change => exact absurd rfl (internal.2 change)
    | _ => exact calm

theorem calm_play {moves : List Move} (calm : w.machine.device.Calm region path)
    (internal : ∀ move ∈ moves, move.Internal) :
    (w.play moves).machine.device.Calm region path :=
  play_preserves (p := fun w => w.machine.device.Calm region path) (fun _ _ => calm_advance) calm
    internal

/-- Without faults, a region that is not blank is settled. -/
theorem settled_of_calm (calm : w.machine.device.Calm region path)
    (filled : w.machine.device.rows.get region ≠ Block.zero) :
    w.Settled region (w.machine.device.rows.get region) := by
  refine ⟨?_, ?_, rfl, filled⟩
  · rw [Device.Honest, calm.faultless]
    exact List.forall_mem_nil _
  · rw [Device.Alone, calm.faultless]
    exact List.forall_mem_nil _

/-- A region that is usable and stays so, with the secret that it has. -/
def StaysUsable (w : World) (region : Region) (path : String) : Prop :=
  ∀ moves, (∀ move ∈ moves, move.Internal) →
    Keeper.Usable region path (w.play moves).machine ∧
      (w.play moves).machine.device.rows.get region = w.machine.device.rows.get region

/-- And it stays usable for ever if it is filled once, since no move of the library takes bits
away. -/
theorem staysUsable_iff_filled (calm : w.machine.device.Calm region path) :
    w.StaysUsable region path ↔ w.machine.device.rows.get region ≠ Block.zero := by
  constructor
  · intro stays
    exact (Keeper.usable_iff_filled calm).1 (stays [] (List.forall_mem_nil _)).1
  · intro filled moves internal
    have settled := (settled_of_calm calm filled).play fun move mem =>
      (internal move mem).tame region
    refine ⟨(Keeper.usable_iff_filled (calm_play calm internal)).2 ?_, settled.holds⟩
    rw [settled.holds]
    exact filled

/-- The world after a keeper has provided its region with a secret. -/
def provide (w : World) (keeper : Keeper) : World :=
  ⟨w.session, (keeper.provide.run.run w.machine).2⟩

/-- On a device without faults a region can always be provided with a secret, and it is usable from
then on exactly if it was not provided with a draw of zeros. -/
theorem provide_staysUsable_iff (w : World) (calm : w.machine.device.Calm region path)
    (settings : Settings) (claim : ClaimId) :
    ∃ outcome, ((Keeper.provide ⟨settings, .otp region path claim⟩).run.run w.machine).1 =
        .ok outcome ∧
      ((w.provide ⟨settings, .otp region path claim⟩).StaysUsable region path ↔
        (outcome = .programmed → w.machine.draws.headD Machine.standardDraw ≠ Block.zero)) := by
  by_cases blank : w.machine.device.rows.get region = Block.zero
  · obtain ⟨m', provided, device⟩ := Keeper.run_provide_of_blank settings claim calm blank
    have held : m'.device.rows.get region = w.machine.draws.headD Machine.standardDraw := by
      rw [device, Rows.get_burn_same, blank, Block.burn_zero]
    have calm' : m'.device.Calm region path := device ▸ calm.burnt _
    refine ⟨.programmed, congrArg Prod.fst provided, ?_⟩
    rw [provide, provided, staysUsable_iff_filled calm', held]
    simp
  · obtain ⟨m', provided, device⟩ : ∃ m',
        (Keeper.provide ⟨settings, .otp region path claim⟩).run.run w.machine =
          (.ok .alreadyProgrammed, m') ∧ m'.device = w.machine.device :=
      ⟨_, Keeper.run_provide_of_filled calm blank settings claim, rfl⟩
    have calm' : m'.device.Calm region path := device ▸ calm
    refine ⟨.alreadyProgrammed, congrArg Prod.fst provided, ?_⟩
    rw [provide, provided, staysUsable_iff_filled calm', device]
    simpa using blank

/-- A blank device and a random source that brings zeros. -/
def unlucky : World := ⟨.start .unset, .start .blank [Block.zero]⟩

/-- Providing the region ends in success, and the region is blank. -/
theorem provide_unlucky : unlucky.machine.device.Calm .privateKey Mailbox.standardPath ∧
    (Keeper.standard.provide.run.run unlucky.machine).1 = .ok .programmed ∧
    (Keeper.standard.state.run.run (unlucky.provide .standard).machine).1 = .ok .blank ∧
    ¬(unlucky.provide .standard).StaysUsable .privateKey Mailbox.standardPath := by
  have seen : (Keeper.standard.state.run.run (unlucky.provide .standard).machine).1 =
      .ok .blank := by decide +kernel
  refine ⟨⟨rfl, rfl, List.not_mem_nil⟩, by decide +kernel, seen, ?_⟩
  intro stays
  have usable := (stays [] (List.forall_mem_nil _)).1.state .standard 0
  cases seen.symm.trans usable

/-- On a blank device with another draw the region is usable. -/
theorem provide_staysUsable_first :
    first.machine.device.Calm .privateKey Mailbox.standardPath ∧
      (first.provide .standard).StaysUsable .privateKey Mailbox.standardPath := by
  have calm : first.machine.device.Calm .privateKey Mailbox.standardPath :=
    ⟨rfl, rfl, List.not_mem_nil⟩
  obtain ⟨outcome, -, stays⟩ := provide_staysUsable_iff first calm .standard 0
  have drawn : first.machine.draws.headD Machine.standardDraw ≠ Block.zero := by decide +kernel
  exact ⟨calm, stays.2 fun _ => drawn⟩

end World

end DeviceKeys
