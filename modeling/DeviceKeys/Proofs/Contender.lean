import DeviceKeys.Proofs.Provision

/-!
# One process among several

A process that provides a region with a secret does not know who else does the same. What it can
count on is little: its own calls succeed, nobody writes while it holds the lock, and a region that
is programmed stays so. `Contender.rules` writes this down as a contract, over what one process
knows (`Contender`): whether it has made its draw, whether it holds the lock, and what it may
believe about the region.

The belief that the region is blank lasts only as long as the lock. The contract allows a write
under this belief and no other, and a process that keeps to it ends in one of two ways: it has
written its own draw, or it has seen that somebody else was first.
-/

set_option autoImplicit false

namespace DeviceKeys

/-- What a process may believe about the region that it is to provide with a secret. -/
inductive Belief where
  | nothing
  | blank
  /-- Somebody has programmed the region. -/
  | filled
  /-- The process itself has. -/
  | own
  deriving DecidableEq, Repr

/-- A process in the middle of its work. -/
structure Contender where
  drawn : Bool
  locks : Bool
  belief : Belief
  deriving DecidableEq, Repr

namespace Contender

def start : Contender := ⟨false, false, .nothing⟩

/-- Without the lock, a region that was blank need not be so any longer. -/
def release (s : Contender) : Contender where
  drawn := s.drawn
  locks := false
  belief := match s.belief with
    | .blank => .nothing
    | belief => belief

/-- Whether a value can be read by a process that believes so. -/
def Fits (draw : Block) : Belief → Block → Prop
  | .nothing, _ => True
  | .blank, value => value = Block.zero
  | .filled, value => value ≠ Block.zero
  | .own, value => value = draw

def see (s : Contender) (value : Block) : Contender where
  drawn := s.drawn
  locks := s.locks
  belief := match s.belief with
    | .own => .own
    | _ => if value ≠ Block.zero then .filled else if s.locks then .blank else .nothing

/-- The contract of one process, which draws this one value and draws once. -/
def rules (region : Region) (path : String) (draw : Block) : Contract Contender where
  allows
    | _, .openAt opened => opened = path
    | s, .transfer buffer => Request.ofBuffer buffer = .read region ∨
        Request.ofBuffer buffer = .write region draw ∧ s.locks = true ∧ s.belief = .blank
    | s, .draw => s.drawn = false
    | _, _ => True
  answers
    | s, .openAt _, reply, t => reply = .ok () ∧ t = s
    | s, .lock, reply, t => reply = .ok () ∧ t = { s with locks := true }
    | s, .unlock, reply, t => reply = .ok () ∧ t = s.release
    | s, .close, reply, t => reply = .ok () ∧ t = s.release
    | s, .transfer buffer, reply, t => ∃ answer : Mailbox.Buffer, reply = .ok answer ∧
        answer.code = Mailbox.success ∧ match Request.ofBuffer buffer with
          | .read _ => Fits draw s.belief answer.value ∧ t = s.see answer.value
          | .write _ _ => t = { s with belief := .own }
          | .unknown _ => False
    | s, .draw, reply, t => reply = draw ∧ t = { s with drawn := true }
    | s, .fileExists _, _, t | s, .log _, _, t | s, .claim _, _, t | s, .release _, _, t => t = s

section

variable {region : Region} {path : String} {draw : Block} {α ε : Type} {s : Contender}

/-! ## Rules -/

theorem meets_log {level : Level} {text : String} {post : Unit → Contender → Prop}
    (next : post () s) : (Program.log level text).Meets (rules region path draw) post s := by
  refine (Program.meets_perform (.log ⟨level, text⟩)).2 ⟨trivial, ?_⟩
  rintro reply t rfl
  exact next

theorem meets_log_bind {level : Level} {text : String} {next : Attempt ε α}
    {post : Except ε α → Contender → Prop}
    (onward : next.run.Meets (rules region path draw) post s) :
    (liftM (Program.log level text) >>= fun _ => next : Attempt ε α).run.Meets
      (rules region path draw) post s :=
  Program.meets_run_bind.2 (Program.meets_run_lift.2 (meets_log onward))

theorem meets_openAt {post : Except CallError Handle → Contender → Prop}
    (next : post (.ok ⟨path, true⟩) s) :
    (Handle.openAt path).run.Meets (rules region path draw) post s := by
  refine Program.meets_bind.2 ((Program.meets_perform (.openAt path)).2 ⟨rfl, ?_⟩)
  intro reply t answered
  obtain ⟨rfl, rfl⟩ := answered
  exact next

/-- The lock is granted, sooner or later. -/
theorem meets_lock {post : Except CallError Unit → Contender → Prop}
    (next : post (.ok ()) { s with locks := true }) :
    Handle.lock.run.Meets (rules region path draw) post s := by
  refine Handle.meets_call.2 ((Program.meets_perform .lock).2 ⟨trivial, ?_⟩)
  intro reply t answered
  obtain ⟨rfl, rfl⟩ := answered
  exact next

/-- With the lock goes the belief that the region is blank. -/
theorem meets_unlock {post : Except CallError Unit → Contender → Prop}
    (next : post (.ok ()) s.release) :
    Handle.unlock.run.Meets (rules region path draw) post s := by
  refine Handle.meets_call.2 ((Program.meets_perform .unlock).2 ⟨trivial, ?_⟩)
  intro reply t answered
  obtain ⟨rfl, rfl⟩ := answered
  exact next

/-- A close succeeds, and gives up the lock if it is held still. -/
theorem meets_close {refused : CallError → ε} {post : Except ε Unit → Contender → Prop}
    (next : post (.ok ()) s.release) :
    (.mk do return (← Handle.close ⟨path, true⟩).1.mapError refused : Attempt ε Unit).run.Meets
      (rules region path draw) post s := by
  refine Program.meets_bind.2 (Program.meets_bind.2
    (Handle.meets_call.2 ((Program.meets_perform .close).2 ⟨trivial, ?_⟩)))
  intro reply t answered
  obtain ⟨rfl, rfl⟩ := answered
  exact next

/-- The draw is made once, and is the value that belongs to this process. -/
theorem meets_draw {post : Block → Contender → Prop} (first : s.drawn = false)
    (next : post draw { s with drawn := true }) :
    (Program.perform .draw).Meets (rules region path draw) post s := by
  refine (Program.meets_perform .draw).2 ⟨first, ?_⟩
  intro reply t answered
  obtain ⟨rfl, rfl⟩ := answered
  exact next

/-- A read succeeds with a value that fits what is believed, and is seen. The next step has to be
prepared for every such value. -/
theorem meets_read {post : Except CallError Block → Contender → Prop}
    (next : ∀ value, Fits draw s.belief value → post (.ok value) (s.see value)) :
    (Handle.read region).run.Meets (rules region path draw) post s := by
  have tagged := Request.ofBuffer_read region none
  refine Program.meets_run_bind.2 (Handle.meets_call.2 ((Program.meets_perform
    (.transfer (.request (.ofNat (Mailbox.tagForReading region)) none))).2 ⟨.inl tagged, ?_⟩))
  intro reply t answered
  obtain ⟨answer, rfl, accepted, known⟩ := answered
  rw [tagged] at known
  obtain ⟨fits, rfl⟩ := known
  simp only [mapError_ok, if_pos accepted]
  exact next _ fits

/-- Only under the lock and over a region that was seen blank under it may a process write, and then
it knows its own draw to be there. -/
theorem meets_write {post : Except CallError Block → Contender → Prop}
    (locked : s.locks = true) (blank : s.belief = .blank)
    (next : ∀ value, post (.ok value) { s with belief := .own }) :
    (Handle.write region draw).run.Meets (rules region path draw) post s := by
  have tagged := Request.ofBuffer_write region draw
  refine Program.meets_run_bind.2 (Handle.meets_call.2 ((Program.meets_perform
    (.transfer (.request (.ofNat (Mailbox.tagForWriting region)) (some draw)))).2
      ⟨.inr ⟨tagged, locked, blank⟩, ?_⟩))
  intro reply t answered
  obtain ⟨answer, rfl, accepted, known⟩ := answered
  rw [tagged] at known
  obtain rfl := known
  simp only [mapError_ok, if_pos accepted]
  exact next _

/-! ## From a look to a programmed region -/

/-- A look without the lock tells one thing that lasts: that somebody has programmed the region.
That it is blank is forgotten at once. -/
theorem meets_inspectRegion {post : Except Error RegionState → Contender → Prop}
    (blank : post (.ok .blank) start) (filled : post (.ok .programmed) ⟨false, false, .filled⟩) :
    (Medium.inspectRegion region path).run.Meets (rules region path draw) post start := by
  refine Program.meets_run_bind.2 (Program.meets_outcome.2 (Program.meets_run_bind.2
    (meets_openAt (Program.meets_ensuring.2 (meets_read fun value _ => meets_close ?_)))))
  refine meets_log_bind ?_
  by_cases empty : value = Block.zero
  · subst empty
    exact blank
  · have programmed : Medium.stateOf value = .programmed :=
      if_neg (by simpa [Block.isBlank] using empty)
    have seen : (start.see value).release = ⟨false, false, .filled⟩ := by
      simp [see, release, start, empty]
    rw [seen]
    exact programmed ▸ filled

/-- Under the lock the region is read again. If it is filled, somebody else was first; if it is
blank, the draw is written and reads back. -/
theorem meets_burn {post : Except Error Unit → Contender → Prop}
    (filled : post (.error (.alreadyProgrammed region)) ⟨true, true, .filled⟩)
    (own : post (.ok ()) ⟨true, true, .own⟩) :
    (Medium.burn region draw).run.Meets (rules region path draw) post ⟨true, true, .nothing⟩ := by
  refine Program.meets_run_bind.2 (Program.meets_run_adapt.2 (meets_read ?_))
  intro current _
  by_cases empty : current = Block.zero
  · subst empty
    refine meets_log_bind ?_
    refine Program.meets_run_bind.2 (Program.meets_run_adapt.2
      (Program.meets_run_bind.2 (meets_write rfl rfl fun _ => meets_read ?_)))
    -- What the process reads back is what it wrote.
    rintro written rfl
    simp only [mapError_ok, ne_eq, not_true_eq_false, ↓reduceIte]
    exact own
  · have found : current.isBlank = false := by simpa [Block.isBlank] using empty
    have seen : see ⟨true, true, .nothing⟩ current = ⟨true, true, .filled⟩ := by simp [see, empty]
    simp only [mapError_ok, found, Bool.not_false, ↓reduceIte]
    rw [seen]
    exact filled

/-- The brackets of file and lock around a burning, which leave nothing to be given back. -/
theorem meets_programRegion {post : Except Error Unit → Contender → Prop}
    (filled : post (.error (.alreadyProgrammed region)) ⟨true, false, .filled⟩)
    (own : post (.ok ()) ⟨true, false, .own⟩) :
    (Medium.programRegion region path draw).run.Meets (rules region path draw) post
      ⟨true, false, .nothing⟩ := by
  refine Program.meets_run_bind.2 (Program.meets_run_adapt.2 (meets_openAt ?_))
  refine Program.meets_run_bind.2 (Program.meets_ensuring.2 (Program.meets_run_bind.2
    (Program.meets_run_adapt.2 (meets_lock (Program.meets_ensuring.2 (meets_burn ?_ ?_))))))
  · exact Program.meets_run_adapt.2 (meets_unlock (meets_close filled))
  · refine Program.meets_run_adapt.2 (meets_unlock (meets_close ?_))
    exact Program.meets_run_lift.2 (meets_log own)

/-- A process that keeps to the rules ends as the one that wrote or behind the one that wrote. -/
def Finished (result : Except Error ProvisionOutcome) (s : Contender) : Prop :=
  s.locks = false ∧ (result = .ok .programmed ∧ s.belief = .own ∨
    result = .ok .alreadyProgrammed ∧ s.belief = .filled)

/-- A process that keeps to its calls keeps to the contract, and is finished at the end: it has
programmed its own draw, or somebody else was first. -/
theorem meets_provide (settings : Settings) (claim : ClaimId) :
    (Keeper.provide ⟨settings, .otp region path claim⟩).run.Meets (rules region path draw)
      Finished start := by
  refine Program.meets_run_bind.2 (Program.meets_run_adapt.2 (meets_inspectRegion ?_ ?_))
  · refine Program.meets_run_bind.2 (Program.meets_run_lift.2 (meets_draw rfl ?_))
    refine Program.meets_run_bind.2 (Program.meets_outcome.2 ?_)
    rw [Medium.program_toList]
    refine meets_programRegion ?_ ?_
    · refine meets_log_bind ?_
      exact ⟨rfl, .inr ⟨rfl, rfl⟩⟩
    · refine meets_log_bind ?_
      exact ⟨rfl, .inl ⟨rfl, rfl⟩⟩
  · refine meets_log_bind ?_
    exact ⟨rfl, .inr ⟨rfl, rfl⟩⟩

end

end Contender

end DeviceKeys
