import DeviceKeys.Proofs.Provision
import DeviceKeys.Proofs.Runs

/-!
# Reading a secret

A keeper reads its secret in two visits to the device, and the second one can see another device
than the first. `Secured` lists the ways on which it comes to a result, with the calls of each; on
only one of them there is a secret at the end. No way takes the lock or writes, so on an honest
device the secret is what the rows hold from the first call to the last.
-/

set_option autoImplicit false

namespace DeviceKeys

/-! ## Visits that gave a value -/

namespace Handle

variable {region : Region} {path : String} {value : Block} {seen : Except CallError Block}
  {calls : List Moment} {d d' : Device}

/-- A visit gives a value only if all of its three calls went well. -/
theorem Visited.of_ok (h : Visited region path (.ok value) calls) :
    ∃ o r c, calls = [o, r, c] ∧ o.Makes (.openAt path) (.ok ()) ∧ r.Reads region (.ok value) ∧
      c.Makes .close (.ok ()) := by
  generalize outcome : (.ok value : Except CallError Block) = result at h
  cases h with
  | unopened opens => cases outcome
  | @bracketed o r c result closed opens reads closes =>
    obtain ⟨rfl, rfl⟩ := Program.settle_eq_ok.1 outcome.symm
    exact ⟨o, r, c, rfl, opens, reads, closes⟩

/-- A visit makes no call that could change rows. -/
theorem Visited.quiet (h : Visited region path seen calls) :
    ∀ q ∈ calls, q.event? ≠ some .lock ∧ q.written? = none := by
  cases h with
  | unopened opens => simp [Moment.written?, Event.written?, opens.1]
  | bracketed opens reads closes =>
    simp [Moment.written?, Event.written?, opens.1, reads.1, closes.1]

/-- What a visit to an honest device gives is what the rows hold. -/
theorem Visited.held (h : Visited region path (.ok value) calls) (linked : Linked d calls d')
    (honest : d.Honest) : d.rows.get region = value := by
  obtain ⟨o, r, c, rfl, opens, reads, closes⟩ := h.of_ok
  have honestly := (linked.honest honest).1
  obtain ⟨rfl, here, -⟩ := linked
  have still : r.rows = o.rows := by
    rw [Moment.rows, here]
    exact Moment.rows_still (by simp [opens.1]) (by simp [Moment.written?, Event.written?, opens.1])
  have read := reads.rows_eq (honestly r (by simp))
  rw [still] at read
  exact read

end Handle

/-! ## Ways to a secret -/

namespace Keeper

open Medium (Inspected)
open Handle (Visited)

/-- The result of asking a keeper for its secret, and the calls that are made for it. -/
inductive Secured (region : Region) (path : String) :
    Except Error RootSecret → List Moment → Prop
  | uninspected {err : Error} {calls : List Moment}
      (looked : Inspected region path (.error err) calls) : Secured region path (.error err) calls
  | blank {calls : List Moment} (looked : Inspected region path (.ok .blank) calls) :
      Secured region path (.error (.regionBlank region.name)) calls
  | unavailable {calls : List Moment} (looked : Inspected region path (.ok .unavailable) calls) :
      Secured region path (.error (.regionUnavailable region.name)) calls
  | unread {err : CallError} {calls reading : List Moment}
      (looked : Inspected region path (.ok .programmed) calls)
      (visited : Visited region path (.error err) reading) :
      Secured region path (.error (.readingFailed (.call region err))) (calls ++ reading)
  | empty {calls reading : List Moment} (looked : Inspected region path (.ok .programmed) calls)
      (visited : Visited region path (.ok Block.zero) reading) :
      Secured region path (.error (.readingFailed (.empty region.name))) (calls ++ reading)
  | secured {value : Block} {calls reading : List Moment}
      (looked : Inspected region path (.ok .programmed) calls)
      (visited : Visited region path (.ok value) reading) (found : value ≠ Block.zero) :
      Secured region path (.ok ⟨value⟩) (calls ++ reading)

variable {region : Region} {path : String} {settings : Settings} {claim : ClaimId} {m : Machine}

theorem secured (settings : Settings) (region : Region) (path : String) (claim : ClaimId)
    (m : Machine) :
    Secured region path ((secret ⟨settings, .otp region path claim⟩).run.run m).1
      ((secret ⟨settings, .otp region path claim⟩).run.calls m) := by
  refine Program.calls_run_of_meets (Program.meets_run_bind.2
    (Program.meets_of_calls_run (Medium.inspected region path m) ?_))
  intro found m calls looked
  rcases found with err | state
  · exact .uninspected looked
  · cases state with
    | blank => exact .blank looked
    | unavailable => exact .unavailable looked
    | programmed =>
      refine Program.meets_run_bind.2 (Program.meets_run_bind.2 (Program.meets_run_adapt.2
        (Program.meets_of_calls_run (Handle.visited region path m) ?_)))
      intro seen m reading visited
      rcases seen with err | value
      · exact .unread looked visited
      · show (ite _ _ _ : Attempt Error RootSecret).run.Meets _ _ _
        by_cases blank : (RootSecret.mk value).isBlank = true
        · obtain rfl : value = Block.zero := eq_of_beq blank
          rw [if_pos blank]
          exact .empty looked visited
        · have found : value ≠ Block.zero := by
            rintro rfl
            exact blank rfl
          rw [if_neg blank]
          exact .secured looked visited found

theorem Secured.held {secret : RootSecret} {calls : List Moment} {d d' : Device}
    (h : Secured region path (.ok secret) calls) (linked : Linked d calls d') (honest : d.Honest) :
    secret = ⟨d.rows.get region⟩ ∧ d.rows.get region ≠ Block.zero := by
  cases h with
  | @secured value calls reading looked visited found =>
    obtain ⟨seen, first, -⟩ := looked
    obtain ⟨e, before, behind⟩ := linked_append.1 linked
    have held := visited.held behind (before.honest honest).2
    rw [before.rows_still first.quiet] at held
    rw [held]
    exact ⟨rfl, found⟩

/-- The secret of an honest device is what its rows hold, and not zeros. -/
theorem secret_eq_ok (honest : m.device.Honest) {secret : RootSecret}
    (h : ((Keeper.secret ⟨settings, .otp region path claim⟩).run.run m).1 = .ok secret) :
    secret = ⟨m.device.rows.get region⟩ ∧ m.device.rows.get region ≠ Block.zero := by
  have ways := secured settings region path claim m
  rw [h] at ways
  exact ways.held (Program.linked_calls _ m) honest

end Keeper

end DeviceKeys
