import DeviceKeys.Medium
import DeviceKeys.Proofs.Visits

/-!
# Programming a region, call by call

There are seven ways through `Medium.burn`, told apart by the call at which things went wrong, and
three through the brackets around it: the file does not open, the lock is not granted, or the value
is burned under the lock. In the last, what the burning came to is settled twice, by the unlock and
by the close, and either of them can put a failure of its own in its place.

A law about programming is a case analysis over these ways. What a way says about a call is only
what the program knows of it, its answer; what the device makes of it is said elsewhere.
-/

set_option autoImplicit false

namespace DeviceKeys

open Program (settle)

namespace Medium

/-- The result of burning a value, and the calls that are made for it under the lock. -/
inductive Burnt (region : Region) (value : Block) : Except Error Unit → List Moment → Prop
  | refused {r : Moment} {tag code : Int} (reads : r.Reads region (.error (.rejected tag code))) :
      Burnt region value (.error (.mediumMissing (.refused region))) [r]
  | unread {r : Moment} {errno : Nat} {path : Option String}
      (reads : r.Reads region (.error (.system errno path))) :
      Burnt region value (.error (.programmingFailed (.reading region (.system errno path)))) [r]
  | occupied {r : Moment} {current : Block} (reads : r.Reads region (.ok current))
      (found : current.isBlank = false) :
      Burnt region value (.error (.alreadyProgrammed region)) [r]
  | unwritten {r w : Moment} {err : CallError} (reads : r.Reads region (.ok Block.zero))
      (writes : w.Makes (.request (.write region value)) (.error err)) :
      Burnt region value (.error (.programmingFailed (.programming region err))) [r, w]
  | unchecked {r w b : Moment} {err : CallError} (reads : r.Reads region (.ok Block.zero))
      (writes : w.Makes (.request (.write region value)) (.ok ()))
      (rereads : b.Reads region (.error err)) :
      Burnt region value (.error (.programmingFailed (.programming region err))) [r, w, b]
  | differing {r w b : Moment} {written : Block} (reads : r.Reads region (.ok Block.zero))
      (writes : w.Makes (.request (.write region value)) (.ok ()))
      (rereads : b.Reads region (.ok written)) (differs : written ≠ value) :
      Burnt region value (.error (.programmingFailed (.verifying region))) [r, w, b]
  | burnt {r w b : Moment} (reads : r.Reads region (.ok Block.zero))
      (writes : w.Makes (.request (.write region value)) (.ok ()))
      (rereads : b.Reads region (.ok value)) : Burnt region value (.ok ()) [r, w, b]

theorem burnt (region : Region) (value : Block) (m : Machine) :
    Burnt region value ((burn region value).run.run m).1 ((burn region value).run.calls m) := by
  refine Program.calls_run_of_meets (Program.meets_run_bind.2 (Program.meets_run_adapt.2
    (Handle.meets_read ?_)))
  intro r _ reads
  cases answer : r.outcome with
  | error err =>
    cases err with
    | system errno path => exact .unread ⟨reads, answer⟩
    | rejected tag code => exact .refused ⟨reads, answer⟩
  | ok current =>
    cases found : current.isBlank with
    | false =>
      simp only [mapError_ok, found, Bool.not_false, ↓reduceIte]
      exact .occupied ⟨reads, answer⟩ found
    | true =>
      obtain rfl : current = Block.zero := eq_of_beq found
      simp only [mapError_ok, found, Bool.not_true, Bool.false_eq_true, ↓reduceIte]
      refine Ledger.meets_log_bind ?_
      intro _
      refine Program.meets_run_bind.2 (Program.meets_run_adapt.2
        (Program.meets_run_bind.2 (Handle.meets_write ?_)))
      intro w _ writes
      cases taken : w.outcome with
      | error err => exact .unwritten ⟨reads, answer⟩ ⟨writes, congrArg (Except.map _) taken⟩
      | ok _ =>
        have accepted : w.done = .ok () := congrArg (Except.map _) taken
        refine Handle.meets_read ?_
        intro b _ rereads
        cases written : b.outcome with
        | error err => exact .unchecked ⟨reads, answer⟩ ⟨writes, accepted⟩ ⟨rereads, written⟩
        | ok current =>
          -- The value of the write itself was thrown away; only this one is compared.
          by_cases same : current = value
          · subst same
            simp only [mapError_ok, ne_eq, not_true_eq_false, ↓reduceIte]
            exact .burnt ⟨reads, answer⟩ ⟨writes, accepted⟩ ⟨rereads, written⟩
          · simp only [mapError_ok, ne_eq, same, not_false_eq_true, ↓reduceIte]
            exact .differing ⟨reads, answer⟩ ⟨writes, accepted⟩ ⟨rereads, written⟩ same

/-- Behind a refusal there is no write, and there is never more than one. -/
theorem Burnt.written {region : Region} {value : Block} {result : Except Error Unit}
    {calls : List Moment} (h : Burnt region value result calls) :
    calls.filterMap Moment.written? = [] ∨
      calls.filterMap Moment.written? = [(region, value)] ∧
        (result = .ok () ∨ ∃ cause, result = .error (.programmingFailed cause)) := by
  cases h with
  | refused reads | unread reads | occupied reads _ =>
    exact .inl (by simp [Moment.written?, Event.written?, reads.1])
  | unwritten reads writes =>
    exact .inr ⟨by simp [Moment.written?, Event.written?, reads.1, writes.1], .inr ⟨_, rfl⟩⟩
  | unchecked reads writes rereads | differing reads writes rereads _ =>
    exact .inr ⟨by simp [Moment.written?, Event.written?, reads.1, writes.1, rereads.1],
      .inr ⟨_, rfl⟩⟩
  | burnt reads writes rereads =>
    exact .inr ⟨by simp [Moment.written?, Event.written?, reads.1, writes.1, rereads.1], .inl rfl⟩

/-- The failure of a lock or of a close. -/
def lockingFailed (path : String) (err : CallError) : Error :=
  .programmingFailed (.locking path err)

def openingFailed (path : String) (err : CallError) : Error :=
  if err.isMissingFile then .mediumMissing (.opening path err)
  else .programmingFailed (.opening path err)

/-- The result of programming a region, and its calls from `open` to `close`. -/
inductive Programmed (region : Region) (path : String) (value : Block) :
    Except Error Unit → List Moment → Prop
  | unopened {o : Moment} {err : CallError} (opens : o.Makes (.openAt path) (.error err)) :
      Programmed region path value (.error (openingFailed path err)) [o]
  | unlocked {o l c : Moment} {err : CallError} {closed : Except CallError Unit}
      (opens : o.Makes (.openAt path) (.ok ())) (locks : l.Makes .lock (.error err))
      (closes : c.Makes .close closed) :
      Programmed region path value
        (settle (.error (lockingFailed path err)) (closed.mapError (lockingFailed path))) [o, l, c]
  | bracketed {o l u c : Moment} {body : List Moment} {result : Except Error Unit}
      {unlocked closed : Except CallError Unit} (opens : o.Makes (.openAt path) (.ok ()))
      (locks : l.Makes .lock (.ok ())) (burnt : Burnt region value result body)
      (unlocks : u.Makes .unlock unlocked) (closes : c.Makes .close closed) :
      Programmed region path value
        (settle (settle result (unlocked.mapError (lockingFailed path)))
          (closed.mapError (lockingFailed path))) ([o, l] ++ body ++ [u, c])

theorem programmed (region : Region) (path : String) (value : Block) (m : Machine) :
    Programmed region path value ((programRegion region path value).run.run m).1
      ((programRegion region path value).run.calls m) := by
  refine Program.calls_run_of_meets (Program.meets_run_bind.2 (Program.meets_run_adapt.2
    (Handle.meets_openAt ?_)))
  intro o _ opens
  cases opened : o.done with
  | error err => exact .unopened ⟨opens, opened⟩
  | ok _ =>
    refine Ledger.meets_bind_log (Handle.meets_closing (Handle.meets_locked ?denied ?granted))
    -- A lock that is refused is not given back, but the file is.
    case denied =>
      intro l _ err locks denied c _ closes _
      exact .unlocked ⟨opens, opened⟩ ⟨locks, denied⟩ ⟨closes, rfl⟩
    case granted =>
      intro l m locks granted
      refine Program.meets_of_calls_run (burnt region value m) ?_
      intro result _ body burnt u _ unlocks c _ closes _
      have shape := Programmed.bracketed ⟨opens, opened⟩ ⟨locks, granted⟩ burnt ⟨unlocks, rfl⟩
        ⟨closes, rfl⟩
      have order : [o, l] ++ body ++ [u, c] = [o] ++ [l] ++ body ++ [u] ++ [c] := by simp
      exact order ▸ shape

theorem Programmed.written {region : Region} {path : String} {value : Block}
    {result : Except Error Unit} {calls : List Moment}
    (h : Programmed region path value result calls) :
    calls.filterMap Moment.written? = [] ∨
      calls.filterMap Moment.written? = [(region, value)] ∧
        (result = .ok () ∨ ∃ cause, result = .error (.programmingFailed cause)) := by
  cases h with
  | unopened opens => exact .inl (by simp [Moment.written?, Event.written?, opens.1])
  | unlocked opens locks closes =>
    exact .inl (by simp [Moment.written?, Event.written?, opens.1, locks.1, closes.1])
  | @bracketed o l u c body result unlocked closed opens locks burnt unlocks closes =>
    have only : ([o, l] ++ body ++ [u, c]).filterMap Moment.written? =
        body.filterMap Moment.written? := by
      simp [Moment.written?, Event.written?, opens.1, locks.1, unlocks.1, closes.1]
    rw [only]
    rcases burnt.written with unwritten | ⟨writes, outcome⟩
    · exact .inl unwritten
    refine .inr ⟨writes, ?_⟩
    -- A clean-up that fails has an error of the same kind as a burning that fails.
    rcases closed with err | ⟨⟨⟩⟩
    · exact .inr ⟨_, rfl⟩
    · rcases unlocked with err | ⟨⟨⟩⟩
      · exact .inr ⟨_, rfl⟩
      · exact outcome

/-- Success leaves no other way than the one on which everything went well. -/
theorem Programmed.of_ok {region : Region} {path : String} {value : Block} {calls : List Moment}
    (h : Programmed region path value (.ok ()) calls) :
    ∃ o l r w b u c : Moment, calls = [o, l, r, w, b, u, c] ∧ o.Makes (.openAt path) (.ok ()) ∧
      l.Makes .lock (.ok ()) ∧ r.Reads region (.ok Block.zero) ∧
      w.Makes (.request (.write region value)) (.ok ()) ∧ b.Reads region (.ok value) ∧
      u.Makes .unlock (.ok ()) ∧ c.Makes .close (.ok ()) := by
  generalize outcome : (.ok () : Except Error Unit) = succeeded at h
  cases h with
  | unopened opens => cases outcome
  | @unlocked o l c err closed opens locks closes =>
    have settled := (Program.settle_eq_ok.1 outcome.symm).1
    cases settled
  | @bracketed o l u c body result unlocked closed opens locks burnt unlocks closes =>
    obtain ⟨inner, taken⟩ := Program.settle_eq_ok.1 outcome.symm
    obtain ⟨rfl, released⟩ := Program.settle_eq_ok.1 inner
    rcases unlocked with err | ⟨⟨⟩⟩
    · cases released
    · rcases closed with err | ⟨⟨⟩⟩
      · cases taken
      · cases burnt with
        | @burnt r w b reads writes rereads =>
          exact ⟨o, l, r, w, b, u, c, rfl, opens, locks, reads, writes, rereads, unlocks, closes⟩

end Medium

end DeviceKeys
