import DeviceKeys.Proofs.Honesty
import DeviceKeys.Proofs.Lockstep

/-!
# Diagnostics do nothing but observe

A report looks at both regions, claims the one that is not its own for as long as it looks, and asks
whether the file is there. Whatever comes back, the file is opened, read and closed, and no more:
what the regions hold stays as it is.
-/

set_option autoImplicit false

namespace DeviceKeys

/-- The questions of diagnostics. -/
inductive Action.Observes : Action → Prop
  | looks {region : Region} {path : String} {action : Action} (h : action.Looks region path) :
      Observes action
  | locates (path : String) : Observes (.fileExists path)
  | claims (region : Region) : Observes (.claim region)
  | releases (id : ClaimId) : Observes (.release id)

theorem Action.observes_log (record : Record) : (Action.log record).Observes := by
  have logs : (Action.log record).Looks .privateKey Mailbox.standardPath := .logs record
  exact .looks logs

/-- Whether a call does no more than open the file, read a region or close the file. -/
def Event.IsLook : Event → Prop
  | .openAt _ | .close | .request (.read _) => True
  | .lock | .unlock | .request _ | .random => False

theorem Action.Observes.isLook {action : Action} (h : action.Observes) {event : Event}
    (happened : action.event? = some event) : event.IsLook := by
  cases h with
  | locates path => cases happened
  | claims region => cases happened
  | releases id => cases happened
  | looks h =>
    cases h with
    | opens => cases happened; trivial
    | closes => cases happened; trivial
    | logs record => cases happened
    | reads =>
      cases happened
      rw [Request.ofBuffer_read]
      trivial

/-- What is a look is neither a lock nor a write. -/
theorem Event.IsLook.quiet {event : Event} (h : event.IsLook) :
    event ≠ .lock ∧ event.written? = none := by
  cases event with
  | request request =>
    cases request with
    | read region => exact ⟨nofun, rfl⟩
    | _ => exact absurd h not_false
  | openAt path => exact ⟨nofun, rfl⟩
  | close => exact ⟨nofun, rfl⟩
  | _ => exact absurd h not_false

namespace Program.Asks

variable {α : Type} {program : Program α}

/-- Every call of a run that observes is a look. -/
theorem looks_of_events (h : program.Asks Action.Observes) (m : Machine) :
    ∀ event ∈ program.events m, event.IsLook := by
  intro event mem
  obtain ⟨q, asked, happened⟩ := List.mem_filterMap.1 mem
  exact (h.forall_moments m q asked).isLook happened

/-- Observing leaves all rows as they are. -/
theorem rows_run (h : program.Asks Action.Observes) (m : Machine) :
    (program.run m).2.device.rows = m.device.rows := by
  refine (program.linked_calls m).rows_still ?_
  intro q mem
  obtain ⟨event, happened⟩ := Option.isSome_iff_exists.1 (List.mem_filter.1 mem).2
  have quiet := ((h.forall_calls m q mem).isLook happened).quiet
  rw [happened, Moment.written?_of_event? happened]
  exact ⟨fun same => quiet.1 (Option.some.inj same), quiet.2⟩

end Program.Asks

/-! ## Looks and reports -/

open DeviceKeys.Action (Observes)
open Program (asks_pure asks_perform)

theorem Medium.asks_claim (region : Region) (path : String) :
    (Medium.claim region path).run.Asks Observes := by
  refine (asks_perform (.claims region)).run_lift.run_bind ?_
  intro granted
  cases granted with
  | some id => exact asks_pure _
  | none => exact asks_pure _

theorem Medium.asks_close (medium : Medium) : medium.close.Asks Observes := by
  cases medium with
  | otp region path claim => exact asks_perform (.releases claim)
  | override seed => exact asks_pure _

theorem Medium.asks_inspect (medium : Medium) : medium.inspect.run.Asks Observes := by
  cases medium with
  | otp region path claim => exact (asks_inspectRegion region path).mono fun _ => .looks
  | override seed => exact asks_pure _

namespace Keeper

theorem asks_stateOf (keeper : Keeper) (region : Region) :
    (keeper.stateOf region).run.Asks Observes := by
  unfold stateOf
  split
  · exact keeper.medium.asks_inspect
  · refine (Medium.asks_claim region keeper.settings.path).run_bind ?_
    intro medium
    exact medium.asks_inspect.run_ensuring medium.asks_close.run_lift

/-- A report looks, claims and gives back. -/
theorem asks_report (keeper : Keeper) : keeper.report.run.Asks Observes := by
  refine (keeper.asks_stateOf .privateKey).run_bind fun privateKey => ?_
  refine (keeper.asks_stateOf .customer).run_bind fun customer => ?_
  exact (asks_perform (.locates _)).run_lift.run_bind fun _ => asks_pure _

end Keeper

end DeviceKeys
