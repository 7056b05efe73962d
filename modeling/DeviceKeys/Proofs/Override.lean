import DeviceKeys.Proofs.Isolation
import DeviceKeys.Proofs.KeyCommands

/-!
# Overrides stay away from the device

Settings with an override lead to a keeper that has nothing to do with the device, whatever else the
settings say: every region is left unclaimed, nothing is called and nothing is drawn, and the
surroundings have no say in any result. All of this is one fact, that such a keeper asks for nothing
but lines of the log (`Program.Asks.detached`). Only the report looks at the device, and it is not
among what is spoken of here.

The text of the override may be empty, which is not the same as no override.
-/

set_option autoImplicit false

namespace DeviceKeys

/-! ## Detached programs -/

/-- Whether a question is a line of the log. -/
def Action.IsLine : Action → Prop
  | .log _ => True
  | _ => False

namespace Program

variable {α : Type} {program : Program α}

/-- What a program is that its surroundings have no influence on, and that has none on them except
for the log. -/
structure Detached (program : Program α) : Prop where
  result : ∀ m m' : Machine, (program.run m').1 = (program.run m).1
  left : ∀ m : Machine, ∃ log, (program.run m).2 = { m with log }
  lines : ∀ m : Machine, ∀ q ∈ program.moments m, q.action.IsLine
  calls : ∀ m : Machine, program.calls m = []

/-- A program that only logs is detached from the device. -/
theorem Asks.detached (h : program.Asks Action.IsLine) : program.Detached := by
  constructor
  · -- A line of the log has the same answer everywhere, so any two machines are alike to it.
    intro m m'
    refine (h.lockstep (fun _ _ => True) ?_ trivial).1
    intro m m' action _ line
    cases action with
    | log record => exact ⟨rfl, trivial⟩
    | _ => exact absurd line not_false
  · intro m
    induction program generalizing m with
    | done value => exact ⟨m.log, rfl⟩
    | ask action next ih =>
      cases action with
      | log record => exact ih () (h.2 () () trivial) { m with log := m.log ++ [record] }
      | _ => exact absurd h.1 not_false
  · exact h.forall_moments
  · intro m
    refine List.filter_eq_nil_iff.2 ?_
    intro q mem call
    have line := h.forall_moments m q mem
    obtain ⟨machine, action⟩ := q
    cases action with
    | log record => cases call
    | _ => exact absurd line not_false

end Program

open DeviceKeys.Action (IsLine)
open Program (asks_pure asks_log)

/-! ## The medium of an override -/

namespace Medium

variable (seed : Bytes)

theorem asks_inspect_override : (override seed).inspect.run.Asks IsLine := asks_pure _

theorem asks_fetch_override : (override seed).fetch.run.Asks IsLine := asks_pure _

theorem asks_program_override (bytes : Bytes) :
    ((override seed).program bytes).run.Asks IsLine := (asks_log fun _ => trivial).run_lift

theorem asks_close_override : (override seed).close.Asks IsLine := asks_pure _

end Medium

/-! ## The keeper of an override -/

namespace Keeper

/-- A key is made of the secret, if there is one, and of the request. -/
theorem run_derive (keeper : Keeper) (label : Label) (form : KeyForm) (region : Region)
    (m : Machine) : ((keeper.derive label form).run.run m).1 =
      (keeper.secret.run.run m).1 >>=
        KeyRequest.answer ⟨region, keeper.settings.salt, label.toBytes, form⟩ := by
  cases form with
  | bytes length =>
    rw [derive, Program.run_attempt_map, run_key]
    cases (keeper.secret.run.run m).1 <;> rfl
  | hex length =>
    rw [derive, Program.run_attempt_map, run_hexKey]
    cases (keeper.secret.run.run m).1 <;> rfl
  | uuid =>
    rw [derive, Program.run_attempt_map, run_uuid]
    cases (keeper.secret.run.run m).1 <;> rfl

variable (settings : Settings) (seed : Bytes)

/-- To provide an override with a secret is a line in the log. -/
theorem asks_provide_override : (provide ⟨settings, .override seed⟩).run.Asks IsLine :=
  (asks_log fun _ => trivial).run_lift.run_bind fun _ => asks_pure _

/-- Which secret an override gives depends on its seed alone. -/
theorem run_secret_override (m : Machine) : ((secret ⟨settings, .override seed⟩).run.run m).1 =
    if (RootSecret.ofSeed seed).isBlank then .error (.readingFailed (.empty "fake"))
    else .ok (.ofSeed seed) := by
  change ((ite _ _ _ : Attempt Error RootSecret).run.run m).1 = _
  split
  · rfl
  · rfl

end Keeper

/-! ## Overrides -/

/-- The keeper of settings with an override. -/
def Keeper.ofOverride (settings : Settings) (text : String) : Keeper :=
  ⟨settings, .override (Bytes.ofText text)⟩

/-- That an override takes the place of the device, for settings whatever else they say. -/
structure OverrideHonored (settings : Settings) (text : String) : Prop where
  /-- The keeper can always be made, and claims no region. -/
  make : ∀ m : Machine, ∃ log, (Keeper.make settings none).run.run m =
    (.ok (Keeper.ofOverride settings text), { m with log })
  provide : ∀ m : Machine,
    ((Keeper.ofOverride settings text).provide.run.run m).1 = .ok .alreadyProgrammed
  state : ∀ m : Machine, ((Keeper.ofOverride settings text).state.run.run m).1 = .ok .programmed
  isProvided : ∀ m : Machine,
    ((Keeper.ofOverride settings text).isProvided.run.run m).1 = .ok true
  secret : ∀ m : Machine, ((Keeper.ofOverride settings text).secret.run.run m).1 =
    .ok (.ofSeed (Bytes.ofText text))
  /-- Every key is that of the digest. -/
  derive : ∀ (label : Label) (form : KeyForm) (m : Machine),
    (((Keeper.ofOverride settings text).derive label form).run.run m).1 =
      KeyRequest.answer ⟨settings.region, settings.salt, label.toBytes, form⟩
        (.ofSeed (Bytes.ofText text))
  /-- No operation but the report has to do with the device. -/
  detached : ∀ (name : String) (operation : Operation), operation ≠ .report →
    (Item.onKeeper name (Keeper.ofOverride settings text) operation).run.Detached
  /-- Nor has any operation of the medium. -/
  medium : ∀ (name : String) (operation : Operation),
    (Item.onMedium name (.override (Bytes.ofText text)) operation).run.Detached
  /-- Other settings with the same override and the same salt give the same keys, on any other
  machine. -/
  keys : ∀ (settings' : Settings) (text' : String), settings'.override = some text' →
    Bytes.ofText text' = Bytes.ofText text → settings'.salt = settings.salt →
    ∀ (label label' : Label), label'.toBytes = label.toBytes → ∀ (form : KeyForm) (m m' : Machine),
      ((do (← Keeper.make settings' none).derive label' form).run.run m').1 =
        ((do (← Keeper.make settings none).derive label form).run.run m).1

theorem Keeper.run_derive_override (settings : Settings) (text : String) (label : Label)
    (form : KeyForm) (m : Machine) :
    (((ofOverride settings text).derive label form).run.run m).1 =
      (if (RootSecret.ofSeed (Bytes.ofText text)).isBlank
        then .error (.readingFailed (.empty "fake")) else .ok (.ofSeed (Bytes.ofText text))) >>=
        KeyRequest.answer ⟨.privateKey, settings.salt, label.toBytes, form⟩ := by
  rw [run_derive _ label form .privateKey, ofOverride, run_secret_override]

/-- Nothing of the device has a part in a keeper with an override. -/
theorem override_honored (settings : Settings) (text : String)
    (chosen : settings.override = some text)
    (filled : (RootSecret.ofSeed (Bytes.ofText text)).isBlank = false) :
    OverrideHonored settings text where
  make := Keeper.run_make_override chosen
  provide _ := rfl
  state _ := rfl
  isProvided _ := rfl
  secret m := by
    rw [Keeper.ofOverride, Keeper.run_secret_override, filled]
    rfl
  derive label form m := by
    rw [Keeper.run_derive_override, filled]
    rfl
  detached name operation silent :=
    (Item.asks_onKeeper name (Medium.asks_inspect_override _) (Medium.asks_fetch_override _)
      (Keeper.asks_provide_override settings _) (fun _ => trivial)
      (fun _ => Medium.asks_close_override _) silent).detached
  medium name operation :=
    (Item.asks_onMedium name (Medium.asks_inspect_override _) (Medium.asks_fetch_override _)
      (Medium.asks_program_override _) (fun _ => Medium.asks_close_override _)).detached
  keys := by
    intro settings' text' chosen' bytes salt label label' same form m m'
    obtain ⟨log, made⟩ := Keeper.run_make_override chosen m
    obtain ⟨log', made'⟩ := Keeper.run_make_override chosen' m'
    rw [Program.run_attempt_bind, Program.run_attempt_bind, made, made']
    refine (Keeper.run_derive_override settings' text' label' form _).trans ?_
    rw [bytes, salt, same]
    exact (Keeper.run_derive_override settings text label form _).symm

/-- An empty override, beside the choice of the customer region, a salt and a path that leads
nowhere. -/
theorem override_honored_empty :
    (⟨true, some "", some [1], "/nowhere"⟩ : Settings).override = some "" ∧
      (RootSecret.ofSeed (Bytes.ofText "")).isBlank = false ∧
      OverrideHonored ⟨true, some "", some [1], "/nowhere"⟩ "" := by
  have filled : (RootSecret.ofSeed (Bytes.ofText "")).isBlank = false := by decide +kernel
  exact ⟨rfl, filled, override_honored _ _ rfl filled⟩

end DeviceKeys
