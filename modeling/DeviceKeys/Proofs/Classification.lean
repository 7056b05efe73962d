import DeviceKeys.Proofs.Excerpts
import DeviceKeys.Proofs.Provision

/-!
# What a look at a region concludes

A look makes at most three calls, and one of them decides what it says: the open if the file does
not open, else the close if it fails, else the read (`Handle.Decided`). By the documents only two
things say that a region is not offered, a file that does not exist and a firmware that rejects the
read, and every other failure leaves the state of the region unknown (`Medium.Classified`).

The code goes by the number of the error and not by the call that brought it. So there is one more
way to be told that the region is not offered: the file is open, and the number of a missing file
comes from the read or from the close (`Medium.Mistaken`). On every device where this does not
happen, and on no other, the look concludes what the documents say.
-/

set_option autoImplicit false

namespace DeviceKeys

/-! ## Outcomes of calls

What a call can come to depends on the call alone: the one that opens a file names it, and only a
request can be rejected. -/

theorem Request.tag_of_ofBuffer_read {buffer : Mailbox.Buffer} {region : Region}
    (h : ofBuffer buffer = .read region) : buffer.tag.toNat = Mailbox.tagForReading region := by
  unfold ofBuffer at h
  split at h
  · next found =>
    cases h
    simpa using List.find?_some found
  · split at h <;> cases h

namespace Moment

variable {q : Moment} {region : Region} {path : String}

theorem outcome_of_openAt (h : q.event? = some (.openAt path)) :
    q.outcome = .ok Block.zero ∨ ∃ errno, q.outcome = .error (.system errno (some path)) := by
  obtain ⟨m, action⟩ := q
  cases action with
  | openAt other =>
    obtain rfl : other = path := by simpa [event?, Action.event?] using h
    unfold outcome
    cases reply (⟨m, .openAt other⟩ : Moment) with
    | ok _ => exact .inl rfl
    | error errno => exact .inr ⟨errno, rfl⟩
  | _ => cases h

theorem outcome_of_close (h : q.event? = some .close) :
    q.outcome = .ok Block.zero ∨ ∃ errno, q.outcome = .error (.system errno none) := by
  obtain ⟨m, action⟩ := q
  cases action with
  | close =>
    unfold outcome
    cases reply (⟨m, .close⟩ : Moment) with
    | ok _ => exact .inl rfl
    | error errno => exact .inr ⟨errno, rfl⟩
  | _ => cases h

/-- A read that the system carries out is answered by the firmware, which rejects it by any code but
one. -/
theorem outcome_of_read (h : q.event? = some (.request (.read region))) :
    (∃ value, q.outcome = .ok value) ∨ (∃ errno, q.outcome = .error (.system errno none)) ∨
      ∃ code : UInt32, code ≠ Mailbox.success ∧
        q.outcome = .error (.rejected (Mailbox.tagForReading region) code.toNat) := by
  obtain ⟨m, action⟩ := q
  cases action with
  | transfer buffer =>
    have asked : Request.ofBuffer buffer = .read region := by
      simpa [event?, Action.event?] using h
    unfold outcome
    cases reply (⟨m, .transfer buffer⟩ : Moment) with
    | error errno => exact .inr (.inl ⟨errno, rfl⟩)
    | ok answer =>
      by_cases accepted : answer.code = Mailbox.success
      · exact .inl ⟨answer.value, if_pos accepted⟩
      · refine .inr (.inr ⟨answer.code, accepted, ?_⟩)
        rw [← Request.tag_of_ofBuffer_read asked]
        exact if_neg accepted
  | _ => cases h

end Moment

/-! ## Visits, by the call that decides them -/

namespace Handle

/-- The exchanges of a visit that opened the file. -/
def session (region : Region) (path : String) (answer closed : Except CallError Block) :
    List Exchange :=
  [⟨.openAt path, .ok Block.zero⟩, ⟨.request (.read region), answer⟩, ⟨.close, closed⟩]

/-- The result of a visit and its exchanges. -/
inductive Decided (region : Region) (path : String) :
    Except CallError Block → List Exchange → Prop
  | unopened (errno : Nat) : Decided region path (.error (.system errno (some path)))
      [⟨.openAt path, .error (.system errno (some path))⟩]
  | unclosed (answer : Except CallError Block) (errno : Nat) :
      Decided region path (.error (.system errno none))
        (session region path answer (.error (.system errno none)))
  | unread (errno : Nat) : Decided region path (.error (.system errno none))
      (session region path (.error (.system errno none)) (.ok Block.zero))
  | rejected (code : UInt32) (other : code ≠ Mailbox.success) :
      Decided region path (.error (.rejected (Mailbox.tagForReading region) code.toNat))
        (session region path (.error (.rejected (Mailbox.tagForReading region) code.toNat))
          (.ok Block.zero))
  | answered (value : Block) : Decided region path (.ok value)
      (session region path (.ok value) (.ok Block.zero))

theorem Visited.decided {region : Region} {path : String} {seen : Except CallError Block}
    {calls : List Moment} (h : Visited region path seen calls) :
    Decided region path seen (calls.filterMap Moment.exchange?) := by
  cases h with
  | @unopened o err opens =>
    rw [List.filterMap_cons_some opens.exchange?_of_error]
    rcases Moment.outcome_of_openAt opens.1 with outcome | ⟨errno, outcome⟩
    · cases (congrArg (Except.map _) outcome).symm.trans opens.2
    · cases (congrArg (Except.map _) outcome).symm.trans opens.2
      exact .unopened errno
  | @bracketed o r c result closed opens reads closes =>
    have opened : o.exchange? = some ⟨.openAt path, .ok Block.zero⟩ := by
      rw [Moment.exchange?_of_event? opens.1]
      rcases Moment.outcome_of_openAt opens.1 with outcome | ⟨errno, outcome⟩
      · rw [outcome]
      · cases (congrArg (Except.map _) outcome).symm.trans opens.2
    have shape : [o, r, c].filterMap Moment.exchange? = session region path result c.outcome := by
      simp [opened, reads.exchange?, Moment.exchange?_of_event? closes.1, session]
    rw [shape, ← closes.2]
    rcases Moment.outcome_of_close closes.1 with outcome | ⟨errno, outcome⟩
    · -- The close went well, so the read decides.
      rw [Moment.done, outcome]
      rcases Moment.outcome_of_read reads.1 with ⟨value, answer⟩ | ⟨errno, answer⟩ |
        ⟨code, other, answer⟩
      · cases reads.2.symm.trans answer
        exact .answered value
      · cases reads.2.symm.trans answer
        exact .unread errno
      · cases reads.2.symm.trans answer
        exact .rejected code other
    · rw [Moment.done, outcome]
      exact .unclosed result errno

end Handle

/-! ## Conclusions -/

namespace Medium

open Handle (Decided session)

/-- The file was closed without an error. -/
def Closes (exchanges : List Exchange) : Prop := ∃ value, ⟨.close, .ok value⟩ ∈ exchanges

/-- What a look concludes from its calls, by the documents. -/
structure Classified (region : Region) (path : String) (exchanges : List Exchange)
    (result : Except Error RegionState) : Prop where
  /-- The file does not exist, or the firmware answers with another code than success. -/
  unavailable : result = .ok .unavailable ↔
    ⟨.openAt path, .error (.system 2 (some path))⟩ ∈ exchanges ∨
    (∃ code : UInt32, code ≠ 0x80000000 ∧ ⟨.request (.read region),
      .error (.rejected (Mailbox.tagForReading region) code.toNat)⟩ ∈ exchanges) ∧ Closes exchanges
  blank : result = .ok .blank ↔
    ⟨.request (.read region), .ok Block.zero⟩ ∈ exchanges ∧ Closes exchanges
  programmed : result = .ok .programmed ↔
    (∃ value, value ≠ Block.zero ∧ ⟨.request (.read region), .ok value⟩ ∈ exchanges) ∧
      Closes exchanges
  /-- Every other failure of the system, at whichever call, is a failure to read, and it is reported
  with the error of a call that failed. -/
  failed : ∀ call errno subject, ⟨call, .error (.system errno subject)⟩ ∈ exchanges →
    ¬(call = .openAt path ∧ errno = 2) →
    ∃ last err, ⟨last, .error err⟩ ∈ exchanges ∧ result = .error (.readingFailed (.call region err))

/-- With the file open, the call that decides brings the number of a missing file. -/
def Mistaken (region : Region) (exchanges : List Exchange) : Prop :=
  ⟨.close, .error (.system 2 none)⟩ ∈ exchanges ∨
    ⟨.request (.read region), .error (.system 2 none)⟩ ∈ exchanges ∧ Closes exchanges

section

variable {region : Region} {path : String} {errno : Nat} {subject : Option String}
  {seen : Except CallError Block} {exchanges : List Exchange}

/-! ### What a mistake takes -/

theorem mistaken_unclosed {answer : Except CallError Block} :
    Mistaken region (session region path answer (.error (.system errno none))) ↔ errno = 2 := by
  simp [Mistaken, session, Closes, eq_comm]

theorem mistaken_unread {closed : Block} :
    Mistaken region (session region path (.error (.system errno none)) (.ok closed)) ↔
      errno = 2 := by
  simp [Mistaken, session, Closes, eq_comm]

/-! ### What a look concludes -/

theorem judge_missing : judge region (.error (.system 2 subject)) = .ok .unavailable := rfl

theorem judge_system (other : errno ≠ 2) : judge region (.error (.system errno subject)) =
    .error (.readingFailed (.call region (.system errno subject))) := if_neg other

/-- A failure of the system never tells what a region holds. -/
theorem judge_system_ne {state : RegionState} (told : state ≠ .unavailable) :
    judge region (.error (.system errno subject)) ≠ .ok state := by
  by_cases missing : errno = 2
  · subst missing
    simpa [judge_missing] using told.symm
  · simp [judge_system missing]

theorem judge_blank : judge region (.ok Block.zero) = .ok .blank := rfl

theorem judge_filled {value : Block} (filled : value ≠ Block.zero) :
    judge region (.ok value) = .ok .programmed := by
  simp [judge, stateOf, Block.isBlank, filled]

theorem judge_eq_blank_iff (h : Decided region path seen exchanges) :
    judge region seen = .ok .blank ↔
      ⟨.request (.read region), .ok Block.zero⟩ ∈ exchanges ∧ Closes exchanges := by
  cases h with
  | unopened errno => simp [judge_system_ne]
  | unclosed answer errno => simp [judge_system_ne, session, Closes]
  | unread errno => simp [judge_system_ne, session]
  | rejected code other => simp [judge, session]
  | answered value =>
    by_cases blank : value = Block.zero
    · simp [blank, judge_blank, session, Closes]
    · simp [judge_filled blank, session, Ne.symm blank]

theorem judge_eq_programmed_iff (h : Decided region path seen exchanges) :
    judge region seen = .ok .programmed ↔
      (∃ value, value ≠ Block.zero ∧ ⟨.request (.read region), .ok value⟩ ∈ exchanges) ∧
        Closes exchanges := by
  cases h with
  | unopened errno => simp [judge_system_ne]
  | unclosed answer errno => simp [judge_system_ne, session, Closes]
  | unread errno => simp [judge_system_ne, session]
  | rejected code other => simp [judge, session]
  | answered value =>
    by_cases blank : value = Block.zero
    · simp [blank, judge_blank, session]
    · simp [judge_filled blank, session, Closes, blank]

theorem judge_eq_unavailable_iff (h : Decided region path seen exchanges)
    (right : ¬Mistaken region exchanges) : judge region seen = .ok .unavailable ↔
      ⟨.openAt path, .error (.system 2 (some path))⟩ ∈ exchanges ∨
      (∃ code : UInt32, code ≠ 0x80000000 ∧ ⟨.request (.read region),
        .error (.rejected (Mailbox.tagForReading region) code.toNat)⟩ ∈ exchanges) ∧
          Closes exchanges := by
  cases h with
  | unopened errno =>
    by_cases missing : errno = 2
    · simp [missing, judge_missing]
    · simp [judge_system missing, Ne.symm missing]
  | unclosed answer errno =>
    have other : errno ≠ 2 := fun missing => right (mistaken_unclosed.2 missing)
    simp [judge_system other, session, Closes]
  | unread errno =>
    have other : errno ≠ 2 := fun missing => right (mistaken_unread.2 missing)
    simp [judge_system other, session]
  | rejected code other =>
    have rejected : ∃ code' : UInt32, code' ≠ 0x80000000 ∧ (code'.toNat : Int) = code.toNat :=
      ⟨code, other, rfl⟩
    simpa [judge, session, Closes] using rejected
  | answered value =>
    by_cases blank : value = Block.zero
    · simp [blank, judge_blank, session]
    · simp [judge_filled blank, session]

/-- A look that is not mistaken reports the failure of one of its calls, if any failed. -/
theorem judge_of_failed (h : Decided region path seen exchanges) (right : ¬Mistaken region exchanges)
    {call : Event} (failed : ⟨call, .error (.system errno subject)⟩ ∈ exchanges)
    (known : ¬(call = .openAt path ∧ errno = 2)) : ∃ last err, ⟨last, .error err⟩ ∈ exchanges ∧
      judge region seen = .error (.readingFailed (.call region err)) := by
  cases h with
  | unopened number =>
    obtain ⟨rfl, rfl, rfl⟩ : call = .openAt path ∧ errno = number ∧ subject = some path := by
      simpa using failed
    have other : errno ≠ 2 := fun missing => known ⟨rfl, missing⟩
    exact ⟨_, _, failed, judge_system other⟩
  | unclosed answer number =>
    have other : number ≠ 2 := fun missing => right (mistaken_unclosed.2 missing)
    exact ⟨.close, _, by simp [session], judge_system other⟩
  | unread number =>
    have other : number ≠ 2 := fun missing => right (mistaken_unread.2 missing)
    exact ⟨.request (.read region), _, by simp [session], judge_system other⟩
  | rejected code other => simp [session] at failed
  | answered value => simp [session] at failed

/-- Who is mistaken takes the region for one that is not offered. -/
theorem judge_of_mistaken (h : Decided region path seen exchanges)
    (mistaken : Mistaken region exchanges) : judge region seen = .ok .unavailable := by
  cases h with
  | unopened errno => simp [Mistaken] at mistaken
  | unclosed answer errno => rw [mistaken_unclosed.1 mistaken, judge_missing]
  | unread errno => rw [mistaken_unread.1 mistaken, judge_missing]
  | rejected code other => simp [Mistaken, session] at mistaken
  | answered value => simp [Mistaken, session] at mistaken

/-- What a mistaken look concludes is not what the documents say. -/
theorem not_classified_of_mistaken (mistaken : Mistaken region exchanges) :
    ¬Classified region path exchanges (.ok .unavailable) := by
  intro classified
  obtain closes | ⟨reads, -⟩ := mistaken
  · obtain ⟨_, _, -, failed⟩ := classified.failed _ _ _ closes nofun
    cases failed
  · obtain ⟨_, _, -, failed⟩ := classified.failed _ _ _ reads nofun
    cases failed

end

variable (region : Region) (path : String) (claim : ClaimId) (m : Machine)

/-- A look on any machine concludes what the documents say, unless it is mistaken; and then it says
that the region is not offered. -/
theorem inspect_classified_iff :
    (Classified region path ((otp region path claim).inspect.run.exchanges m)
        ((otp region path claim).inspect.run.run m).1 ↔
      ¬Mistaken region ((otp region path claim).inspect.run.exchanges m)) ∧
    (Mistaken region ((otp region path claim).inspect.run.exchanges m) →
      ((otp region path claim).inspect.run.run m).1 = .ok .unavailable) := by
  obtain ⟨seen, visited, judged⟩ := inspected region path m
  have decided := visited.decided
  rw [← Program.exchanges_eq_calls] at decided
  have concluded : ((otp region path claim).inspect.run.run m).1 = judge region seen := judged
  rw [concluded]
  refine ⟨⟨fun classified mistaken => ?_, fun right => ?_⟩, judge_of_mistaken decided⟩
  · rw [judge_of_mistaken decided mistaken] at classified
    exact not_classified_of_mistaken mistaken classified
  · exact ⟨judge_eq_unavailable_iff decided right, judge_eq_blank_iff decided,
      judge_eq_programmed_iff decided, fun _ _ _ => judge_of_failed decided right⟩

/-- A device whose file is there, and on which every read fails with the number of a missing file. -/
def vanishing : Machine :=
  .start { Device.blank with faults := [⟨.read, none, 0, none, .fail 2⟩] } []

theorem exchanges_vanishing :
    ((otp .privateKey Mailbox.standardPath 0).inspect.run.exchanges vanishing).map
        (fun e => (e.event, e.outcome)) =
      [(.openAt Mailbox.standardPath, .ok Block.zero),
        (.request (.read .privateKey), .error (.system 2 none)), (.close, .ok Block.zero)] := by
  decide +kernel

/-- The file was opened and closed, and the look says that there is no such file. -/
theorem inspect_vanishing :
    ((otp .privateKey Mailbox.standardPath 0).inspect.run.run vanishing).1 = .ok .unavailable ∧
      ¬Classified .privateKey Mailbox.standardPath
        ((otp .privateKey Mailbox.standardPath 0).inspect.run.exchanges vanishing)
        ((otp .privateKey Mailbox.standardPath 0).inspect.run.run vanishing).1 := by
  have concluded : ((otp .privateKey Mailbox.standardPath 0).inspect.run.run vanishing).1 =
      .ok .unavailable := by decide +kernel
  have mistaken : Mistaken .privateKey
      ((otp .privateKey Mailbox.standardPath 0).inspect.run.exchanges vanishing) := by
    have seen := exchanges_vanishing
    simp only [List.map_eq_cons_iff, List.map_eq_nil_iff, Prod.mk.injEq] at seen
    obtain ⟨⟨_, _⟩, _, all, -, ⟨_, _⟩, _, rfl, ⟨rfl, rfl⟩, ⟨_, _⟩, _, rfl, ⟨rfl, rfl⟩, rfl⟩ := seen
    rw [all]
    exact .inr (by simp [Closes])
  rw [concluded]
  exact ⟨rfl, not_classified_of_mistaken mistaken⟩

end Medium

end DeviceKeys
