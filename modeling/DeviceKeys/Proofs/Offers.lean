import DeviceKeys.Proofs.Classification
import DeviceKeys.Proofs.Lockstep

/-!
# Two ways to ask for the private-key region

Whether the firmware offers the private-key region can be asked without a medium, and a medium of
that region can be told to look. Both make one visit to the device, and after the visit they only
log. So on one device they make the same calls, meet the same faults and leave the same device
behind, whatever else the two machines have seen before; what is left to compare is how each judges
the visit, call error by call error.
-/

set_option autoImplicit false

namespace DeviceKeys

/-! ## One visit, and lines of the log -/

namespace Medium

variable (region : Region) (path : String) (m : Machine)

theorem exists_run_inspectRegion : ∃ log, (inspectRegion region path).run.run m =
    (judge region ((Handle.visit region path).run.run m).1,
      { ((Handle.visit region path).run.run m).2 with log }) := by
  rw [inspectRegion, Program.run_attempt_bind, Program.run_run_outcome]
  rcases ((Handle.visit region path).run.run m).1 with (⟨errno, subject⟩ | ⟨tag, code⟩) | value
  · by_cases missing : errno = CallError.noSuchFile
    · simp only [CallError.isMissingFile, beq_iff_eq, judge, missing, ↓reduceIte]
      exact ⟨_, rfl⟩
    · simp only [CallError.isMissingFile, beq_iff_eq, judge, missing, ↓reduceIte]
      exact ⟨_, rfl⟩
  · exact ⟨_, rfl⟩
  · exact ⟨_, rfl⟩

theorem events_inspectRegion :
    (inspectRegion region path).run.events m = (Handle.visit region path).run.events m := by
  refine (Program.excerpt_bind_silent Moment.event? ?_ m).trans
    (Program.excerpt_outcome Moment.event? _ m)
  -- Whatever the visit came to, there is nothing left to do but to log it.
  rintro ((⟨errno, subject⟩ | ⟨tag, code⟩) | value) m
  · by_cases missing : errno = CallError.noSuchFile
    · simp only [CallError.isMissingFile, beq_iff_eq, missing, ↓reduceIte]
      rfl
    · simp only [CallError.isMissingFile, beq_iff_eq, missing, ↓reduceIte]
      rfl
  · rfl
  · rfl

end Medium

namespace Handle

variable (path : String) (m : Machine)

theorem exists_run_offersPrivateKey : ∃ log, (offersPrivateKey path).run m =
    (((visit .privateKey path).run.run m).1.toBool,
      { ((visit .privateKey path).run.run m).2 with log }) := by
  rw [offersPrivateKey, Program.run_bind]
  cases ((visit .privateKey path).run.run m).1 with
  | ok value => exact ⟨_, rfl⟩
  | error err => exact ⟨_, rfl⟩

theorem events_offersPrivateKey :
    (offersPrivateKey path).events m = (visit .privateKey path).run.events m := by
  refine (Program.excerpt_bind Moment.event? _ _ m).trans ?_
  cases ((visit .privateKey path).run.run m).1 with
  | ok value => exact List.append_nil _
  | error err => exact List.append_nil _

end Handle

/-! ## What the visit is taken for -/

namespace Medium

variable {region : Region} {seen : Except CallError Block}

/-- A visit that brought a value tells what the region holds, and no other visit does. -/
theorem toBool_eq_true_iff_judge : seen.toBool = true ↔
    judge region seen = .ok .blank ∨ judge region seen = .ok .programmed := by
  rcases seen with (⟨errno, subject⟩ | ⟨tag, code⟩) | value
  · exact iff_of_false nofun (not_or.2 ⟨judge_system_ne nofun, judge_system_ne nofun⟩)
  · exact iff_of_false nofun (by simp [judge])
  · refine iff_of_true rfl ?_
    by_cases blank : value = Block.zero
    · exact .inl (blank ▸ judge_blank)
    · exact .inr (judge_filled blank)

theorem toBool_eq_false_iff_judge : seen.toBool = false ↔
    judge region seen = .ok .unavailable ∨
      ∃ cause, judge region seen = .error (.readingFailed cause) := by
  rw [← Bool.not_eq_true, @toBool_eq_true_iff_judge region]
  cases judged : judge region seen with
  | error err =>
    obtain ⟨cause, rfl⟩ := judge_eq_error judged
    simp
  | ok state => cases state <;> simp

end Medium

/-! ## The two against each other -/

namespace Handle

/-- What the question for the private-key region comes to on one machine, against what a look at the
region through a medium comes to on another. -/
structure Concurs (path : String) (claim : ClaimId) (m m' : Machine) : Prop where
  offered : ((offersPrivateKey path).run m).1 = true ↔
    ((Medium.otp .privateKey path claim).inspect.run.run m').1 = .ok .blank ∨
      ((Medium.otp .privateKey path claim).inspect.run.run m').1 = .ok .programmed
  refused : ((offersPrivateKey path).run m).1 = false ↔
    ((Medium.otp .privateKey path claim).inspect.run.run m').1 = .ok .unavailable ∨
      ∃ cause, ((Medium.otp .privateKey path claim).inspect.run.run m').1 =
        .error (.readingFailed cause)
  events : (offersPrivateKey path).events m =
    (Medium.otp .privateKey path claim).inspect.run.events m'
  /-- The rows are the same afterwards, and so is what is left of the faults. -/
  device : ((offersPrivateKey path).run m).2.device =
    ((Medium.otp .privateKey path claim).inspect.run.run m').2.device

/-- Both questions are answered by one visit, read in two ways. -/
theorem offersPrivateKey_concurs (path : String) (claim : ClaimId) {m m' : Machine}
    (same : m'.device = m.device) : Concurs path claim m m' := by
  have looks := asks_visit .privateKey path
  obtain ⟨result, device⟩ := looks.looks_congr same
  obtain ⟨_, offers⟩ := exists_run_offersPrivateKey path m
  obtain ⟨_, inspects⟩ := Medium.exists_run_inspectRegion .privateKey path m'
  refine ⟨?_, ?_, ?_, ?_⟩
  · rw [offers, Medium.inspect, inspects, result]
    exact Medium.toBool_eq_true_iff_judge
  · rw [offers, Medium.inspect, inspects, result]
    exact Medium.toBool_eq_false_iff_judge
  · rw [events_offersPrivateKey, Medium.inspect, Medium.events_inspectRegion]
    exact (looks.looks_events same).symm
  · rw [offers, Medium.inspect, inspects]
    exact device.symm

/-- A device whose file cannot be closed. -/
def unclosable : Machine :=
  .start { Device.blank with faults := [⟨.close, none, 0, none, .fail 5⟩] } []

/-- The region was read there, but the close decides: it is not offered, and the look fails. -/
theorem offersPrivateKey_unclosable :
    let claimed : Machine := { unclosable with claims := ⟨1, [(0, .privateKey)]⟩ }
    claimed.device = unclosable.device ∧ Concurs Mailbox.standardPath 0 unclosable claimed ∧
      ((offersPrivateKey Mailbox.standardPath).run unclosable).1 = false ∧
      ((Medium.otp .privateKey Mailbox.standardPath 0).inspect.run.run claimed).1 =
        .error (.readingFailed (.call .privateKey (.system 5 none))) := by
  refine ⟨rfl, offersPrivateKey_concurs Mailbox.standardPath 0 rfl, ?_, ?_⟩
  · decide +kernel
  · decide +kernel

end Handle

end DeviceKeys
