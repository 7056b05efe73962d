import DeviceKeys.Proofs.Questions
import DeviceKeys.Session

/-!
# Functions that leave the claims alone

Claims are made and given back by few functions: those that make a medium of the device, close one
or drop one, and the report, which makes and closes media of its own. Every other function asks only
idle questions, whatever comes back, and so do those few where a medium is given or an override
takes its place.
-/

set_option autoImplicit false

namespace DeviceKeys

/-! ## Idle questions -/

/-- Whether a question neither makes a claim nor gives one back. -/
def Action.IsIdle : Action → Prop
  | .claim _ | .release _ => False
  | _ => True

/-- To look leaves the claims alone. -/
theorem Action.Looks.isIdle {region : Region} {path : String} {action : Action}
    (h : action.Looks region path) : action.IsIdle := by
  cases h <;> trivial

theorem Action.Programs.isIdle {region : Region} {path : String} {action : Action}
    (h : action.Programs region path) : action.IsIdle := by
  cases h with
  | looks h => exact h.isIdle
  | _ => trivial

open DeviceKeys.Action (IsIdle)
open Program (Asks asks_pure asks_perform asks_log)

theorem Program.idle_log (level : Level) (text : String) : (log level text).Asks IsIdle :=
  asks_log fun _ => trivial

theorem Settings.idle_load (env : Environment) (customerRegion : Option Bool)
    (salt : Option String) : (load env customerRegion salt).Asks IsIdle :=
  asks_load (fun _ => trivial) env customerRegion salt

namespace Handle

theorem idle_visit (region : Region) (path : String) : (visit region path).run.Asks IsIdle :=
  (asks_visit region path).mono fun _ => Action.Looks.isIdle

theorem idle_send (tag : Int) (value : Option Bytes) : (send tag value).run.Asks IsIdle :=
  asks_send (fun _ => trivial) tag value

theorem idle_offersPrivateKey (path : String) : (offersPrivateKey path).Asks IsIdle := by
  refine (idle_visit .privateKey path).bind ?_
  intro result
  cases result with
  | ok value => exact asks_pure _
  | error err => exact (Program.idle_log _ _).bind fun _ => asks_pure _

end Handle

namespace Medium

theorem idle_inspect (medium : Medium) : medium.inspect.run.Asks IsIdle := by
  cases medium with
  | override seed => exact asks_pure _
  | otp region path claim =>
    exact (asks_inspectRegion region path).mono fun _ => Action.Looks.isIdle

theorem idle_fetch (medium : Medium) : medium.fetch.run.Asks IsIdle := by
  cases medium with
  | override seed => exact asks_pure _
  | otp region path claim =>
    exact (asks_fetch region path claim).mono fun _ => Action.Looks.isIdle

theorem idle_program (medium : Medium) (bytes : Bytes) :
    (medium.program bytes).run.Asks IsIdle := by
  cases medium with
  | override seed => exact (Program.idle_log _ _).run_lift
  | otp region path claim =>
    exact (asks_program region path claim bytes).mono fun _ => Action.Programs.isIdle

/-- An override needs no region. -/
theorem idle_ofSettings {settings : Settings} (override : settings.hasOverride) :
    (ofSettings settings).run.Asks IsIdle := by
  unfold ofSettings
  split
  next => exact asks_pure _
  next plain => simp [Settings.hasOverride, plain] at override

end Medium

namespace Keeper

theorem idle_make_override {settings : Settings} (override : settings.hasOverride) :
    (make settings none).run.Asks IsIdle :=
  asks_make (fun _ => trivial) fun _ => Medium.idle_ofSettings override

/-- A keeper of a medium that is there claims nothing of its own. -/
theorem idle_make_of_medium (settings : Settings) (medium : Medium) :
    (make settings (some medium)).run.Asks IsIdle := asks_make (fun _ => trivial) nofun

variable (keeper : Keeper)

theorem idle_provide : keeper.provide.run.Asks IsIdle := by
  obtain ⟨settings, medium⟩ := keeper
  cases medium with
  | override seed => exact (Program.idle_log _ _).run_lift.run_bind fun _ => asks_pure _
  | otp region path claim =>
    exact (asks_provide settings region path claim).mono fun _ => Action.Programs.isIdle

end Keeper

namespace Item

/-- Of the operations on a medium the close alone gives a claim back. -/
theorem idle_onMedium (name : String) (medium : Medium) {operation : Operation}
    (other : operation ≠ .close) : (onMedium name medium operation).run.Asks IsIdle :=
  asks_onMedium name medium.idle_inspect medium.idle_fetch medium.idle_program
    fun closing => absurd closing other

/-- A report is set apart too: it claims the regions that it looks at through media of its own. -/
theorem idle_onKeeper (name : String) (keeper : Keeper) {operation : Operation}
    (other : operation ≠ .close) (silent : operation ≠ .report) :
    (onKeeper name keeper operation).run.Asks IsIdle :=
  asks_onKeeper name (Medium.idle_inspect _) (Medium.idle_fetch _) keeper.idle_provide
    (fun _ => trivial) (fun closing => absurd closing other) silent

/-- A handle has no claim, open or closed. -/
theorem idle_onHandle (closedCalls : ClosedCalls) (name : String) (handle : Handle)
    (operation : Operation) : (onHandle closedCalls name handle operation).Asks IsIdle := by
  by_cases closing : operation = .close
  · subst closing
    exact (Handle.asks_close handle trivial).bind fun _ => asks_pure _
  · obtain same | same := onHandle_eq closedCalls name handle closing <;> rw [same]
    · exact asks_pure _
    · refine Asks.bind ?_ fun _ => asks_pure _
      cases operation with
      | exchange tag value => exact (Handle.idle_send tag value).run_map _
      | lock | unlock =>
        exact ((Handle.asks_call (asks_perform trivial)).run_adapt _).run_bind fun _ => asks_pure _
      | _ => exact asks_pure _

end Item

end DeviceKeys
