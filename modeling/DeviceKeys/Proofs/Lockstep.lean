import DeviceKeys.Proofs.Questions

/-!
# Programs in lockstep

What a program asks next depends on nothing but the answers so far. So two machines that answer
alike whatever the program may ask are asked the same questions and come to the same result: it is
enough to look at a single question, and the rest is one induction over the tree
(`Program.Asks.lockstep`). The law of the tree becomes a law of the run in the same way: every
question of a run is one of those that the program may ask (`Program.Asks.forall_moments`).
-/

set_option autoImplicit false

namespace DeviceKeys

namespace Program

variable {α : Type} {allowed : Action → Prop} {program : Program α} {m m' : Machine}

/-- The questions of a run, in order. -/
def asked (program : Program α) (m : Machine) : List Action :=
  (program.moments m).map Moment.action

theorem events_eq_asked (program : Program α) (m : Machine) :
    program.events m = (program.asked m).filterMap Action.event? := by
  rw [events, asked, List.filterMap_map]
  rfl

namespace Asks

theorem forall_moments (h : program.Asks allowed) (m : Machine) :
    ∀ q ∈ program.moments m, allowed q.action := by
  induction program generalizing m with
  | done value => exact List.forall_mem_nil _
  | ask action next ih =>
    refine List.forall_mem_cons.2 ⟨h.1, ?_⟩
    exact ih _ (h.2 _ () trivial) _

theorem forall_calls (h : program.Asks allowed) (m : Machine) :
    ∀ q ∈ program.calls m, allowed q.action := by
  intro q mem
  exact h.forall_moments m q (List.mem_filter.1 mem).1

/-- Two machines that are related stay so and give the same result, if every question that may be
asked has the same answer on both and leaves them related. -/
theorem lockstep (h : program.Asks allowed) (related : Machine → Machine → Prop)
    (step : ∀ {m m' : Machine} {action : Action}, related m m' → allowed action →
      (m'.answer action).1 = (m.answer action).1 ∧
        related (m.answer action).2 (m'.answer action).2)
    (start : related m m') :
    (program.run m').1 = (program.run m).1 ∧ program.asked m' = program.asked m ∧
      related (program.run m).2 (program.run m').2 := by
  induction program generalizing m m' with
  | done value => exact ⟨rfl, rfl, start⟩
  | ask action next ih =>
    obtain ⟨reply, left⟩ := step start h.1
    -- Behind the same answer stands the same program, which is put to the machines that are left.
    obtain ⟨result, questions, final⟩ := ih (m.answer action).1 (h.2 _ () trivial) left
    have run : (ask action next).run m' =
        (next (m.answer action).1).run (m'.answer action).2 := by
      rw [← reply]
      rfl
    have asked : (ask action next).asked m' =
        action :: (next (m.answer action).1).asked (m'.answer action).2 := by
      rw [← reply]
      rfl
    rw [run, asked, questions]
    exact ⟨result, rfl, final⟩

end Asks

end Program

/-! ## Looking

The answer to a look is that of the device: the claims, the draws to come and what is on record do
not matter for it. -/

theorem Action.Looks.answer_congr {region : Region} {path : String} {action : Action}
    (h : action.Looks region path) {m m' : Machine} (same : m'.device = m.device) :
    (m'.answer action).1 = (m.answer action).1 ∧
      (m'.answer action).2.device = (m.answer action).2.device := by
  cases h with
  | opens =>
    change (m'.device.openAt path).1 = _ ∧ (m'.device.openAt path).2 = _
    rw [same]
    exact ⟨rfl, rfl⟩
  | reads =>
    change (m'.device.transfer _).1 = _ ∧ (m'.device.transfer _).2 = _
    rw [same]
    exact ⟨rfl, rfl⟩
  | closes =>
    change (m'.device.call .close).1 = _ ∧ (m'.device.call .close).2 = _
    rw [same]
    exact ⟨rfl, rfl⟩
  | logs record => exact ⟨rfl, same⟩

namespace Program.Asks

variable {α : Type} {program : Program α} {region : Region} {path : String} {m m' : Machine}

theorem looks_lockstep (h : program.Asks (Action.Looks region path)) (same : m'.device = m.device) :
    (program.run m').1 = (program.run m).1 ∧ program.asked m' = program.asked m ∧
      (program.run m').2.device = (program.run m).2.device :=
  h.lockstep (fun m m' => m'.device = m.device) (fun same looks => looks.answer_congr same) same

/-- What does nothing but look sees the same on machines with the same device. -/
theorem looks_congr (h : program.Asks (Action.Looks region path)) (same : m'.device = m.device) :
    (program.run m').1 = (program.run m).1 ∧
      (program.run m').2.device = (program.run m).2.device :=
  ⟨(h.looks_lockstep same).1, (h.looks_lockstep same).2.2⟩

/-- And it makes the same calls there. -/
theorem looks_events (h : program.Asks (Action.Looks region path)) (same : m'.device = m.device) :
    program.events m' = program.events m := by
  rw [events_eq_asked, events_eq_asked, (h.looks_lockstep same).2.1]

end Program.Asks

end DeviceKeys
