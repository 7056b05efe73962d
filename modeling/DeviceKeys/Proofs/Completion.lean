import DeviceKeys.Proofs.Provision
import Mathlib.Data.List.Basic

/-!
# What a completed programming is reported as

A programming is completed when the value was written and read back under the lock: from then on
the region holds the secret, and nothing can take it away again. Two calls still follow, which give
back the lock and the file. Their failure takes the place of the result, so that a region can be
programmed and verified, and all the same be reported as a failure to lock the device.

The report of a completed programming hinges on these two calls and on nothing else (`Hinges`), and
a device that refuses once to take its lock back (`jammed`) is one on which it goes wrong.
-/

set_option autoImplicit false

namespace DeviceKeys

namespace Medium

variable {region own : Region} {path : String} {value held : Block} {result : Except Error Unit}
  {o l r w b : Moment} {before after front rest calls : List Moment}

/-- The five calls with which a programming is complete. -/
structure Completed (region : Region) (path : String) (value : Block) (o l r w b : Moment) :
    Prop where
  opens : o.Makes (.openAt path) (.ok ())
  locks : l.Makes .lock (.ok ())
  reads : r.Reads region (.ok Block.zero)
  writes : w.Makes (.request (.write region value)) (.ok ())
  rereads : b.Reads region (.ok value)

/-- The one write of a list of calls can be found in one place only. -/
theorem split_at_write {r' w' : Moment} {seen : Except CallError Block}
    (before_quiet : ∀ q ∈ front, q.written? = none) (reads : r'.Reads own seen)
    (after_quiet : ∀ q ∈ rest, q.written? = none)
    (writes : w.Makes (.request (.write region value)) (.ok ()))
    (split : front ++ r' :: w' :: rest = before ++ w :: after) : w' = w ∧ rest = after := by
  have wrote : w.written? ≠ none := by simp [Moment.written?_eq_some.2 writes.1]
  have quiet : ∀ q ∈ front ++ [r'], q.written? = none :=
    List.forall_mem_append.2 ⟨before_quiet, List.forall_mem_singleton.2 reads.written?⟩
  have split' : (front ++ [r']) ++ w' :: rest = before ++ w :: after := by simpa using split
  exact ((List.append_cons_inj_of_notMem (fun mem => wrote (quiet w mem))
    (fun mem => wrote (after_quiet w mem))).1 split').2

theorem not_quiet (writes : w.Makes (.request (.write region value)) (.ok ())) (mem : w ∈ calls) :
    ¬ ∀ q ∈ calls, q.written? = none := by
  intro quiet
  have unwritten := quiet w mem
  rw [Moment.written?_eq_some.2 writes.1] at unwritten
  cases unwritten

/-- A value that was written and read back is all that burning wants. -/
theorem Burnt.of_rereads (h : Burnt own held result calls)
    (before_quiet : ∀ q ∈ front, q.written? = none) (after_quiet : ∀ q ∈ rest, q.written? = none)
    (writes : w.Makes (.request (.write region value)) (.ok ()))
    (rereads : b.Reads region (.ok value))
    (split : front ++ calls ++ rest = before ++ w :: b :: after) :
    result = .ok () ∧ rest = after := by
  rw [List.append_assoc] at split
  have behind : ∀ {b' : Moment} {seen : Except CallError Block}, b'.Reads own seen →
      ∀ q ∈ b' :: rest, q.written? = none := fun rereads' =>
    List.forall_mem_cons.2 ⟨rereads'.written?, after_quiet⟩
  cases h with
  | @refused r' _ _ reads | @unread r' _ _ reads | @occupied r' _ reads _ =>
    -- Nothing was written at all.
    have quiet : ∀ q ∈ front ++ ([r'] ++ rest), q.written? = none :=
      List.forall_mem_append.2 ⟨before_quiet, behind reads⟩
    have mem : w ∈ front ++ ([r'] ++ rest) := by
      rw [split]
      simp
    exact absurd quiet (not_quiet writes mem)
  | unwritten reads fails =>
    obtain ⟨rfl, -⟩ := split_at_write before_quiet reads after_quiet writes split
    cases fails.2.symm.trans writes.2
  | unchecked reads writes' fails =>
    obtain ⟨rfl, same⟩ := split_at_write before_quiet reads (behind fails) writes split
    obtain ⟨rfl, -⟩ := List.cons.inj same
    cases fails.2.symm.trans rereads.2
  | differing reads writes' rereads' differs =>
    -- The write is the same one, so what was read back is what it wrote.
    obtain ⟨rfl, same⟩ := split_at_write before_quiet reads (behind rereads') writes split
    obtain ⟨rfl, -⟩ := List.cons.inj same
    cases writes'.1.symm.trans writes.1
    cases rereads'.2.symm.trans rereads.2
    exact absurd rfl differs
  | burnt reads writes' rereads' =>
    obtain ⟨rfl, same⟩ := split_at_write before_quiet reads (behind rereads') writes split
    exact ⟨rfl, (List.cons.inj same).2⟩

/-- The result hinges on the two calls that are left, which give back the lock and the file. -/
def Hinges {α : Type} (path : String) (success : α) (result : Except Error α)
    (left : List Moment) : Prop :=
  ∃ u c, left = [u, c] ∧ u.event? = some .unlock ∧ c.event? = some .close ∧
    (result = .ok success ↔ u.done = .ok () ∧ c.done = .ok ()) ∧
    ∀ err, result = .error err → ∃ cause, err = lockingFailed path cause ∧
      (c.done = .error cause ∨ c.done = .ok () ∧ u.done = .error cause)

theorem Programmed.hinges (h : Programmed own path held result calls)
    (before_quiet : ∀ q ∈ front, q.written? = none) (done : Completed region path value o l r w b)
    (split : front ++ calls = before ++ [o, l, r, w, b] ++ after) :
    Hinges path () result after := by
  have mem : w ∈ front ++ calls := by
    rw [split]
    simp
  cases h with
  | unopened opens =>
    refine absurd ?_ (not_quiet done.writes mem)
    simp only [List.forall_mem_append, List.forall_mem_singleton]
    exact ⟨before_quiet, Moment.written?_of_event? opens.1⟩
  | unlocked opens locks closes =>
    refine absurd ?_ (not_quiet done.writes mem)
    simp only [List.forall_mem_append, List.forall_mem_cons]
    exact ⟨before_quiet, Moment.written?_of_event? opens.1, Moment.written?_of_event? locks.1,
      Moment.written?_of_event? closes.1, fun _ none => absurd none List.not_mem_nil⟩
  | @bracketed o' l' u c body result unlocked closed opens locks burnt unlocks closes =>
    have quiet : ∀ q ∈ front ++ [o', l'], q.written? = none := by
      simp only [List.forall_mem_append, List.forall_mem_cons]
      exact ⟨before_quiet, Moment.written?_of_event? opens.1, Moment.written?_of_event? locks.1,
        fun _ none => absurd none List.not_mem_nil⟩
    have quiet' : ∀ q ∈ [u, c], q.written? = none := by
      simp only [List.forall_mem_cons]
      exact ⟨Moment.written?_of_event? unlocks.1, Moment.written?_of_event? closes.1,
        fun _ none => absurd none List.not_mem_nil⟩
    have split' : (front ++ [o', l']) ++ body ++ [u, c] =
        (before ++ [o, l, r]) ++ w :: b :: after := by
      simpa using split
    obtain ⟨rfl, rfl⟩ := burnt.of_rereads quiet quiet' done.writes done.rereads split'
    refine ⟨u, c, rfl, unlocks.1, closes.1, ?_⟩
    rw [unlocks.2, closes.2]
    rcases closed with err | ⟨⟨⟩⟩
    · simp [Program.settle]
    · rcases unlocked with err | ⟨⟨⟩⟩
      · simp [Program.settle]
      · simp [Program.settle]

end Medium

namespace Keeper

open Medium (Completed Hinges)

variable {region : Region} {path : String} {claim : ClaimId} {value : Block}
  {o l r w b : Moment} {before after : List Moment}

/-- The failure of a lock or of a file is reported as it is. -/
theorem hinges_conclude {result : Except Error Unit} (h : Hinges path () result after) :
    Hinges path .programmed (conclude region result) after := by
  obtain ⟨u, c, left, unlocks, closes, success, failure⟩ := h
  refine ⟨u, c, left, unlocks, closes, ?_⟩
  rcases result with err | ⟨⟨⟩⟩
  · obtain ⟨cause, rfl, failed⟩ := failure err rfl
    -- It is an error, so the two calls did not both succeed.
    have unreported : ¬(u.done = .ok () ∧ c.done = .ok ()) := fun done => nomatch success.2 done
    simp only [conclude, Medium.lockingFailed, reduceCtorEq, unreported, Except.error.injEq,
      true_and]
    rintro - rfl
    exact ⟨cause, rfl, failed⟩
  · simp only [conclude, success.1 rfl, reduceCtorEq, false_implies, implies_true, and_self]

theorem Provided.hinges {result : Except Error ProvisionOutcome} {calls : List Moment}
    (h : Provided region path result calls) (done : Completed region path value o l r w b)
    (split : calls = before ++ [o, l, r, w, b] ++ after) :
    Hinges path .programmed result after := by
  have mem : w ∈ calls := by
    rw [split]
    simp
  cases h with
  | uninspected looked | unavailable looked | already looked =>
    obtain ⟨seen, visited, -⟩ := looked
    exact absurd (List.filterMap_eq_nil_iff.1 visited.plain.1) (Medium.not_quiet done.writes mem)
  | @fresh value draw result calls programming looked draws drawn programmed =>
    obtain ⟨seen, visited, -⟩ := looked
    have quiet : ∀ q ∈ calls ++ [draw], q.written? = none :=
      List.forall_mem_append.2 ⟨List.filterMap_eq_nil_iff.1 visited.plain.1,
        List.forall_mem_singleton.2 (Moment.written?_of_event? draws)⟩
    exact hinges_conclude (programmed.hinges quiet done split)

/-- Whether a completed programming is reported as such, by the medium and by the keeper that asked
for it, hinges on the two calls that are left. -/
theorem completion (m : Machine) (done : Completed region path value o l r w b) :
    (∀ bytes, ((Medium.otp region path claim).program bytes).run.calls m =
        before ++ [o, l, r, w, b] ++ after →
      Hinges path () (((Medium.otp region path claim).program bytes).run.run m).1 after) ∧
    ∀ settings, (provide ⟨settings, .otp region path claim⟩).run.calls m =
        before ++ [o, l, r, w, b] ++ after →
      Hinges path .programmed ((provide ⟨settings, .otp region path claim⟩).run.run m).1 after := by
  refine ⟨fun bytes split => ?_, fun settings split => ?_⟩
  · cases size : Block.ofBytes? bytes with
    | none =>
      have uncalled : ((Medium.otp region path claim).program bytes).run.calls m = [] := by
        simp only [Medium.program, size]
        rfl
      rw [uncalled] at split
      simp at split
    | some block =>
      have same : (Medium.otp region path claim).program bytes =
          Medium.programRegion region path block := by
        rw [Medium.program, size]
      rw [same] at split ⊢
      exact (Medium.programmed region path block m).hinges (List.forall_mem_nil _) done split
  · exact (provided settings region path claim m).hinges done split

/-- A blank device that refuses once to take its lock back. -/
def jammed : Machine :=
  .start { Device.blank with faults := [⟨.unlock, none, 0, some 1, .fail 5⟩] } []

theorem outcomes_jammed :
    (standard.provide.run.calls jammed).map (fun q => (q.event?, q.outcome)) =
      [(some (.openAt Mailbox.standardPath), .ok Block.zero),
        (some (.request (.read .privateKey)), .ok Block.zero),
        (some .close, .ok Block.zero),
        (some .random, .ok Machine.standardDraw),
        (some (.openAt Mailbox.standardPath), .ok Block.zero),
        (some .lock, .ok Block.zero),
        (some (.request (.read .privateKey)), .ok Block.zero),
        (some (.request (.write .privateKey Machine.standardDraw)), .ok Machine.standardDraw),
        (some (.request (.read .privateKey)), .ok Machine.standardDraw),
        (some .unlock, .error (.system 5 none)),
        (some .close, .ok Block.zero)] := by
  decide +kernel

theorem completed_jammed : ∃ before o l r w b after,
    standard.provide.run.calls jammed = before ++ [o, l, r, w, b] ++ after ∧
      Completed .privateKey Mailbox.standardPath Machine.standardDraw o l r w b := by
  have outcomes := outcomes_jammed
  simp only [List.map_eq_cons_iff, List.map_eq_nil_iff, Prod.mk.injEq] at outcomes
  obtain ⟨v₁, _, split, -, v₂, _, rfl, -, v₃, _, rfl, -, d, _, rfl, -, o, _, rfl, opens, l, _,
    rfl, locks, r, _, rfl, reads, w, _, rfl, writes, b, _, rfl, rereads, u, _, rfl, -, c, _, rfl, -,
    rfl⟩ := outcomes
  refine ⟨[v₁, v₂, v₃, d], o, l, r, w, b, [u, c], split, ⟨opens.1, ?_⟩, ⟨locks.1, ?_⟩, reads,
    ⟨writes.1, ?_⟩, rereads⟩
  · rw [Moment.done, opens.2]; rfl
  · rw [Moment.done, locks.2]; rfl
  · rw [Moment.done, writes.2]; rfl

/-- The region holds the drawn value, and the keeper reports that the device could not be locked. -/
theorem completion_reported_as_failure : ∃ before o l r w b after,
    standard.provide.run.calls jammed = before ++ [o, l, r, w, b] ++ after ∧
      Completed .privateKey Mailbox.standardPath Machine.standardDraw o l r w b ∧
      (standard.provide.run.run jammed).1 =
        .error (.programmingFailed (.locking Mailbox.standardPath (.system 5 none))) ∧
      (standard.provide.run.run jammed).2.device.rows.get .privateKey = Machine.standardDraw := by
  obtain ⟨before, o, l, r, w, b, after, split, done⟩ := completed_jammed
  refine ⟨before, o, l, r, w, b, after, split, done, ?_, ?_⟩
  · decide +kernel
  · decide +kernel

theorem completion_jammed : ∃ before o l r w b after,
    standard.provide.run.calls jammed = before ++ [o, l, r, w, b] ++ after ∧
      Completed .privateKey Mailbox.standardPath Machine.standardDraw o l r w b ∧
      Hinges Mailbox.standardPath .programmed (standard.provide.run.run jammed).1 after := by
  obtain ⟨before, o, l, r, w, b, after, split, done⟩ := completed_jammed
  exact ⟨before, o, l, r, w, b, after, split, done, (completion jammed done).2 .standard split⟩

end Keeper

end DeviceKeys
