import DeviceKeys.Proofs.Calm
import DeviceKeys.Proofs.Contender
import Mathlib.Logic.Function.Basic
import Mathlib.Logic.Relation

/-!
# The race for a blank region

Any number of processes provide one region with a secret, each with a draw of its own, on one device
that they share. They take turns in any order, one question at a time; the only order that the
system imposes is that a lock is not granted while another process holds it. Since the look at the
region that comes first is made without the lock, all of them may have seen it blank before any of
them locks.

What is true at every moment is that each process believes about the region what it may
(`Race.Invariant`): in particular that it is blank only under the lock, and so only one process at a
time can be about to write.
-/

set_option autoImplicit false

namespace DeviceKeys

/-! ## Races -/

structure Race (ι : Type) where
  device : Device
  /-- The process that holds the lock. -/
  holder : Option ι
  /-- What each process has still to do. -/
  program : ι → Program (Except Error ProvisionOutcome)
  /-- What each process has for itself: its draws, its claims, its records. -/
  machine : ι → Machine
  /-- The calls so far, with the processes that made them. -/
  events : List (ι × Event)

namespace Race

variable {ι : Type} [DecidableEq ι]

/-- Who holds the lock after a call of a process: an unlock gives it back, and so does a close. -/
def holderAfter (i : ι) (holder : Option ι) : (action : Action) → action.Reply → Option ι
  | .lock, .ok () => some i
  | .unlock, .ok () | .close, .ok () => if holder = some i then none else holder
  | _, _ => holder

/-- The machine that a process sees when it is its turn. -/
def seat (race : Race ι) (i : ι) : Machine := { race.machine i with device := race.device }

/-- The race after a question of a process, with its answer. -/
def turn (race : Race ι) (i : ι) (action : Action)
    (next : action.Reply → Program (Except Error ProvisionOutcome)) : Race ι where
  device := ((race.seat i).answer action).2.device
  holder := holderAfter i race.holder action ((race.seat i).answer action).1
  program := Function.update race.program i (next ((race.seat i).answer action).1)
  machine := Function.update race.machine i ((race.seat i).answer action).2
  events := race.events ++ action.event?.toList.map (i, ·)

/-- One process asks its next question; a lock has to wait while another process holds it. -/
inductive Step : Race ι → Race ι → Prop
  | turn {race : Race ι} (i : ι) (action : Action)
      (next : action.Reply → Program (Except Error ProvisionOutcome))
      (asks : race.program i = .ask action next)
      (free : action = .lock → ∀ j, race.holder = some j → j = i) :
      Step race (race.turn i action next)

/-- The writes so far. -/
def writes (race : Race ι) : List (ι × Region × Block) :=
  race.events.filterMap fun (i, event) => event.written?.map (i, ·)

/-- The value that each process is going to draw. -/
def draw (race : Race ι) (i : ι) : Block := (race.machine i).draws.headD Machine.standardDraw

/-- Every process is about to provide the same blank region, on a device without faults. -/
structure Start (region : Region) (path : String) (race : Race ι) : Prop where
  calm : race.device.Calm region path
  blank : race.device.rows.get region = Block.zero
  unlocked : race.holder = none
  unwritten : race.events = []
  provides : ∀ i, ∃ settings claim,
    race.program i = (Keeper.provide ⟨settings, .otp region path claim⟩).run
  draws : ∀ i, race.draw i ≠ Block.zero

end Race

/-! ## The invariant -/

namespace Race

open Contender (rules Finished)

variable {ι : Type} {region : Region} {path : String} {draw : ι → Block} {race race' : Race ι}
  {view : ι → Contender}

/-- What has to be true for a process to believe what it does. -/
def Warrants (race : Race ι) (region : Region) (draw : ι → Block) (i : ι) (s : Contender) : Prop :=
  match s.belief with
  | .nothing => True
  | .blank => s.locks = true ∧ race.device.rows.get region = Block.zero
  | .filled => race.device.rows.get region ≠ Block.zero
  | .own => race.device.rows.get region = draw i ∧ race.writes = [(i, region, draw i)]

structure Invariant (region : Region) (path : String) (draw : ι → Block) (race : Race ι)
    (view : ι → Contender) : Prop where
  calm : race.device.Calm region path
  keeps : ∀ i, (race.program i).Meets (rules region path (draw i)) Finished (view i)
  draws : ∀ i, (view i).drawn = false → race.draw i = draw i
  locks : ∀ i, (view i).locks = true ↔ race.holder = some i
  warranted : ∀ i, race.Warrants region draw i (view i)
  settled : race.device.rows.get region = Block.zero ∧ race.writes = [] ∨
    ∃ i, (view i).belief = .own

/-- Before the first turn nobody has done anything, and nobody believes anything. -/
theorem Start.invariant (start : race.Start region path) :
    race.Invariant region path race.draw fun _ => Contender.start where
  calm := start.calm
  keeps i := by
    obtain ⟨settings, claim, provides⟩ := start.provides i
    rw [provides]
    exact Contender.meets_provide settings claim
  draws _ _ := rfl
  locks i := by simp [Contender.start, start.unlocked]
  warranted _ := trivial
  settled := .inl ⟨start.blank, by rw [writes, start.unwritten, List.filterMap_nil]⟩

/-- A process that has finished has either written or seen what another wrote. -/
theorem Invariant.finished (inv : race.Invariant region path draw view) {i : ι}
    {result : Except Error ProvisionOutcome} (finished : race.program i = .done result) :
    result = .ok .programmed ∧ (view i).belief = .own ∨
      result = .ok .alreadyProgrammed ∧ (view i).belief = .filled := by
  have keeps := inv.keeps i
  rw [finished] at keeps
  exact keeps.2

theorem Invariant.of_blank (inv : race.Invariant region path draw view) {i : ι}
    (blank : (view i).belief = .blank) :
    (view i).locks = true ∧ race.device.rows.get region = Block.zero := by
  have warranted := inv.warranted i
  rwa [Warrants, blank] at warranted

theorem Invariant.of_filled (inv : race.Invariant region path draw view) {i : ι}
    (filled : (view i).belief = .filled) : race.device.rows.get region ≠ Block.zero := by
  have warranted := inv.warranted i
  rwa [Warrants, filled] at warranted

/-- Who believes to have written is the one who has. -/
theorem Invariant.of_own (inv : race.Invariant region path draw view) {i : ι}
    (own : (view i).belief = .own) :
    race.device.rows.get region = draw i ∧ race.writes = [(i, region, draw i)] := by
  have warranted := inv.warranted i
  rwa [Warrants, own] at warranted

theorem Warrants.congr {i : ι} {s : Contender} (h : race.Warrants region draw i s)
    (rows : race'.device.rows = race.device.rows) (writes : race'.writes = race.writes) :
    race'.Warrants region draw i s := by
  unfold Warrants at h ⊢
  rw [rows, writes]
  exact h

/-! ### What a process may go on to believe -/

namespace Warrants

variable {i : ι} {s : Contender}

theorem lock (h : race.Warrants region draw i s) :
    race.Warrants region draw i { s with locks := true } := by
  unfold Warrants at h ⊢
  cases believes : s.belief <;> simp_all

theorem release (h : race.Warrants region draw i s) : race.Warrants region draw i s.release := by
  unfold Warrants at h ⊢
  cases believes : s.belief <;> simp_all [Contender.release]

theorem fits (h : race.Warrants region draw i s) :
    Contender.Fits (draw i) s.belief (race.device.rows.get region) := by
  unfold Warrants at h
  cases believes : s.belief <;> simp_all [Contender.Fits]

/-- What is read from the region may be believed. -/
theorem see (h : race.Warrants region draw i s) :
    race.Warrants region draw i (s.see (race.device.rows.get region)) := by
  unfold Warrants at h ⊢
  cases believes : s.belief with
  | own => simp_all [Contender.see]
  | nothing | blank | filled =>
    by_cases empty : race.device.rows.get region = Block.zero
    · cases locked : s.locks <;> simp_all [Contender.see]
    · simp_all [Contender.see]

end Warrants

/-! ### Steps -/

section

variable [DecidableEq ι]

theorem writes_turn (i : ι) (action : Action)
    (next : action.Reply → Program (Except Error ProvisionOutcome)) :
    (race.turn i action next).writes =
      race.writes ++ ((action.event?.bind Event.written?).map (i, ·)).toList := by
  rw [writes, turn, List.filterMap_append]
  congr 1
  cases action.event? with
  | none => rfl
  | some event => cases h : event.written? <;> simp [h]

theorem draw_turn {i : ι} {action : Action}
    {next : action.Reply → Program (Except Error ProvisionOutcome)} (kept : action ≠ .draw)
    (j : ι) :
    (race.turn i action next).draw j = race.draw j := by
  by_cases same : j = i
  · subst same
    have draws : ((race.seat j).answer action).2.draws = (race.machine j).draws := by
      cases action with
      | draw => exact absurd rfl kept
      | openAt _ | close | lock | unlock | transfer _ | fileExists _ | log _ | claim _
      | release _ =>
        rfl
    simp [Race.draw, turn, draws]
  · simp [Race.draw, turn, same]

/-- A question that leaves the rows alone: only the process that asks it can change its mind. -/
theorem Invariant.of_quiet (inv : race.Invariant region path draw view) {i : ι} {action : Action}
    {next : action.Reply → Program (Except Error ProvisionOutcome)} {t : Contender}
    (device : (race.turn i action next).device = race.device)
    (reads : action.event?.bind Event.written? = none)
    (keeps : (next ((race.seat i).answer action).1).Meets (rules region path (draw i)) Finished t)
    (draws : t.drawn = false → action ≠ .draw ∧ (view i).drawn = false)
    (locks : t.locks = true ↔ (race.turn i action next).holder = some i)
    (others : ∀ j ≠ i, (race.turn i action next).holder = some j ↔ race.holder = some j)
    (warranted : race.Warrants region draw i t)
    (owned : (view i).belief = .own → t.belief = .own) :
    (race.turn i action next).Invariant region path draw (Function.update view i t) := by
  have writes : (race.turn i action next).writes = race.writes := by
    rw [writes_turn, reads]
    exact List.append_nil _
  have rows : (race.turn i action next).device.rows = race.device.rows := by rw [device]
  refine ⟨device ▸ inv.calm, fun j => ?_, fun j first => ?_, fun j => ?_, fun j => ?_, ?_⟩
  · by_cases same : j = i
    · subst same
      simpa [turn] using keeps
    · simpa [turn, same] using inv.keeps j
  · by_cases same : j = i
    · subst same
      obtain ⟨kept, before⟩ := draws (by simpa using first)
      rw [draw_turn kept]
      exact inv.draws j before
    · simpa [Race.draw, turn, same] using inv.draws j (by simpa [same] using first)
  · by_cases same : j = i
    · subst same
      simpa using locks
    · simpa [same] using (inv.locks j).trans (others j same).symm
  · by_cases same : j = i
    · subst same
      simpa using warranted.congr rows writes
    · simpa [same] using (inv.warranted j).congr rows writes
  · rw [rows, writes]
    rcases inv.settled with unwritten | ⟨j, own⟩
    · exact .inl unwritten
    refine .inr ⟨j, ?_⟩
    by_cases same : j = i
    · subst same
      simpa using owned own
    · simpa [same] using own

/-- The write: no other process believes anything that it makes false. -/
theorem Invariant.of_write (inv : race.Invariant region path draw view)
    (drawn : ∀ i, draw i ≠ Block.zero) {i : ι} {buffer : Mailbox.Buffer}
    {next : (Action.transfer buffer).Reply → Program (Except Error ProvisionOutcome)}
    (writes : Request.ofBuffer buffer = .write region (draw i)) (blank : (view i).belief = .blank)
    (keeps : (next ((race.seat i).answer (.transfer buffer)).1).Meets (rules region path (draw i))
      Finished { view i with belief := .own }) :
    (race.turn i (.transfer buffer) next).Invariant region path draw
      (Function.update view i { view i with belief := .own }) := by
  obtain ⟨answer, carried, -⟩ := inv.calm.write writes
  obtain ⟨locked, empty⟩ := inv.of_blank blank
  have device : (race.turn i (.transfer buffer) next).device =
      { race.device with rows := race.device.rows.burn region (draw i) } :=
    congrArg Prod.snd carried
  have rows : (race.turn i (.transfer buffer) next).device.rows.get region = draw i := by
    rw [device, Rows.get_burn_same, empty, Block.burn_zero]
  have unwritten : race.writes = [] := by
    rcases inv.settled with ⟨-, none⟩ | ⟨j, own⟩
    · exact none
    · exact absurd ((inv.of_own own).1.symm.trans empty) (drawn j)
  have written : (race.turn i (.transfer buffer) next).writes = [(i, region, draw i)] := by
    rw [writes_turn, unwritten, Action.event?, writes]
    rfl
  -- The other processes are as they were, so for them it is a matter of what they believe.
  refine ⟨device ▸ inv.calm.burnt (draw i), fun j => ?_, fun j first => ?_, fun j => ?_,
    fun j => ?_, .inr ⟨i, by simp⟩⟩
  · by_cases same : j = i
    · subst same
      simpa [turn] using keeps
    · simpa [turn, same] using inv.keeps j
  · rw [draw_turn (by simp)]
    by_cases same : j = i
    · subst same
      exact inv.draws j (by simpa using first)
    · exact inv.draws j (by simpa [same] using first)
  · have holder : (race.turn i (.transfer buffer) next).holder = race.holder := rfl
    rw [holder]
    by_cases same : j = i
    · subst same
      simpa using inv.locks j
    · simpa [same] using inv.locks j
  · by_cases same : j = i
    · subst same
      simpa [Warrants] using ⟨rows, written⟩
    · rw [Function.update_of_ne same]
      cases believes : (view j).belief with
      | nothing => simp [Warrants, believes]
      | blank =>
        -- Two processes that believe this would both hold the lock.
        have holds := (inv.locks j).1 (inv.of_blank believes).1
        have both := holds.symm.trans ((inv.locks i).1 locked)
        exact absurd (Option.some.inj both) same
      | filled => exact absurd empty (inv.of_filled believes)
      | own => exact absurd ((inv.of_own believes).1.symm.trans empty) (drawn j)

/-- The lock is given back, in one of the two ways. -/
theorem Invariant.of_release (inv : race.Invariant region path draw view) {i : ι} {action : Action}
    {next : action.Reply → Program (Except Error ProvisionOutcome)}
    (device : (race.turn i action next).device = race.device)
    (reads : action.event?.bind Event.written? = none) (kept : action ≠ .draw)
    (holder : (race.turn i action next).holder = if race.holder = some i then none else race.holder)
    (keeps : (next ((race.seat i).answer action).1).Meets (rules region path (draw i)) Finished
      (view i).release) :
    (race.turn i action next).Invariant region path draw
      (Function.update view i (view i).release) := by
  refine inv.of_quiet device reads keeps (fun first => ⟨kept, first⟩) ?_ (fun j apart => ?_)
    (inv.warranted i).release fun own => ?_
  · rw [holder]
    split
    · simp [Contender.release]
    · next other => simpa [Contender.release] using other
  · rw [holder]
    split
    · next held => simp [held, apart.symm]
    · exact Iff.rfl
  · simp [Contender.release, own]

/-- Every turn of every process leads to views that are warranted again. A process that waits for
the lock has no turn. -/
theorem Invariant.step (inv : race.Invariant region path draw view)
    (drawn : ∀ i, draw i ≠ Block.zero) (step : race.Step race') :
    ∃ view', race'.Invariant region path draw view' := by
  obtain ⟨i, action, next, asks, free⟩ := step
  have keeps := inv.keeps i
  rw [asks] at keeps
  obtain ⟨allowed, onward⟩ := keeps
  -- Whatever is asked, the answer is one that the contract knows; `onward` takes it from there.
  cases action with
  | openAt opened =>
    obtain rfl : opened = path := allowed
    have answered := inv.calm.openAt_eq
    exact ⟨_, inv.of_quiet (congrArg Prod.snd answered) rfl
      (onward _ (view i) ⟨congrArg Prod.fst answered, rfl⟩) (fun first => ⟨nofun, first⟩)
      (inv.locks i) (fun _ _ => Iff.rfl) (inv.warranted i) id⟩
  | fileExists _ | log _ | claim _ | release _ =>
    exact ⟨_, inv.of_quiet rfl rfl (onward _ (view i) rfl) (fun first => ⟨nofun, first⟩)
      (inv.locks i) (fun _ _ => Iff.rfl) (inv.warranted i) id⟩
  | draw =>
    have value : ((race.seat i).answer .draw).1 = draw i := inv.draws i allowed
    exact ⟨_, inv.of_quiet rfl rfl (onward _ { view i with drawn := true } ⟨value, rfl⟩) nofun
      (inv.locks i) (fun _ _ => Iff.rfl) (inv.warranted i) id⟩
  | lock =>
    have answered := inv.calm.lock_eq
    have reply : ((race.seat i).answer .lock).1 = .ok () := congrArg Prod.fst answered
    have holder : (race.turn i .lock next).holder = some i := by
      rw [turn, reply]
      rfl
    refine ⟨_, inv.of_quiet (congrArg Prod.snd answered) rfl
      (onward _ { view i with locks := true } ⟨reply, rfl⟩) (fun first => ⟨nofun, first⟩) ?_ ?_
      (inv.warranted i).lock id⟩
    · simp [holder]
    · -- The lock was free, or it was the process's own.
      intro j apart
      rw [holder]
      constructor
      · rintro ⟨⟩
        exact absurd rfl apart
      · exact fun held => absurd (free rfl j held) apart
  | unlock =>
    have answered := inv.calm.call_eq .unlock
    have reply : ((race.seat i).answer .unlock).1 = .ok () := congrArg Prod.fst answered
    refine ⟨_, inv.of_release (congrArg Prod.snd answered) rfl nofun ?_
      (onward _ (view i).release ⟨reply, rfl⟩)⟩
    rw [turn, reply]
    rfl
  | close =>
    have answered := inv.calm.call_eq .close
    have reply : ((race.seat i).answer .close).1 = .ok () := congrArg Prod.fst answered
    refine ⟨_, inv.of_release (congrArg Prod.snd answered) rfl nofun ?_
      (onward _ (view i).release ⟨reply, rfl⟩)⟩
    rw [turn, reply]
    rfl
  | transfer buffer =>
    rcases allowed with asked | ⟨asked, locked, blank⟩
    · obtain ⟨answer, answered, accepted, value⟩ := inv.calm.read asked
      have onward := onward (.ok answer) ((view i).see answer.value)
        ⟨answer, rfl, accepted, by rw [asked]; exact ⟨value ▸ (inv.warranted i).fits, rfl⟩⟩
      have reply : ((race.seat i).answer (.transfer buffer)).1 = .ok answer :=
        congrArg Prod.fst answered
      refine ⟨Function.update view i ((view i).see answer.value),
        inv.of_quiet (congrArg Prod.snd answered) ?_ (reply ▸ onward) (fun first => ⟨nofun, first⟩)
        (inv.locks i) (fun _ _ => Iff.rfl) ?_ fun own => ?_⟩
      · rw [Action.event?, asked]
        rfl
      · rw [value]
        exact (inv.warranted i).see
      · simp [Contender.see, own]
    · obtain ⟨answer, answered, accepted⟩ := inv.calm.write asked
      have onward := onward (.ok answer) { view i with belief := .own }
        ⟨answer, rfl, accepted, by rw [asked]⟩
      have reply : ((race.seat i).answer (.transfer buffer)).1 = .ok answer :=
        congrArg Prod.fst answered
      exact ⟨_, inv.of_write drawn asked blank (reply ▸ onward)⟩

/-! ### Runs -/

/-- The invariant holds behind any number of turns, in any order. -/
theorem Start.reaches (start : race.Start region path)
    (run : Relation.ReflTransGen Step race race') :
    ∃ view, race'.Invariant region path race.draw view := by
  induction run with
  | refl => exact ⟨_, start.invariant⟩
  | tail _ step ih =>
    obtain ⟨view, inv⟩ := ih
    exact inv.step start.draws step

/-- Somebody can always go on: if nobody else, then the process that holds the lock. -/
theorem Start.goes_on (start : race.Start region path)
    (run : Relation.ReflTransGen Step race race') {i : ι} {action : Action}
    {next : action.Reply → Program (Except Error ProvisionOutcome)}
    (asks : race'.program i = .ask action next) : ∃ race'', Step race' race'' := by
  obtain ⟨view, inv⟩ := start.reaches run
  cases held : race'.holder with
  | none => exact ⟨_, .turn i action next asks fun _ j other => by simp [held] at other⟩
  | some j =>
    cases left : race'.program j with
    | ask action next =>
      refine ⟨_, .turn j action next left fun _ k other => ?_⟩
      exact Option.some.inj (other.symm.trans held)
    | done result =>
      have keeps := inv.keeps j
      rw [left] at keeps
      have unlocked := keeps.1
      rw [(inv.locks j).2 held] at unlocked
      cases unlocked

/-- Whatever the order, one process writes, its draw is what the region holds, it alone reports that
it programmed the region, and all others report that they came too late. -/
theorem one_writer (start : race.Start region path)
    (run : Relation.ReflTransGen Step race race') :
    race'.writes.length ≤ 1 ∧
    (race'.device.rows.get region = Block.zero ∧ race'.writes = [] ∨
      ∃ i, race'.device.rows.get region = race.draw i ∧
        race'.writes = [(i, region, race.draw i)]) ∧
    (∀ i result, race'.program i = .done result →
      result = .ok .programmed ∧ race'.device.rows.get region = race.draw i ∧
          race'.writes = [(i, region, race.draw i)] ∨
        result = .ok .alreadyProgrammed ∧ ∀ block, (i, region, block) ∉ race'.writes) ∧
    (∀ i j, race'.program i = .done (.ok .programmed) →
      race'.program j = .done (.ok .programmed) → i = j) ∧
    (Nonempty ι → (∀ i, ∃ result, race'.program i = .done result) →
      ∃! i, race'.program i = .done (.ok .programmed)) := by
  obtain ⟨view, inv⟩ := start.reaches run
  have alone : ∀ i j, (view i).belief = .own → (view j).belief = .own → i = j := by
    intro i j own other
    have same := (inv.of_own own).2.symm.trans (inv.of_own other).2
    simp only [List.cons.injEq, Prod.mk.injEq, and_true] at same
    exact same.1
  have written : race'.writes = [] ∨ ∃ i, (view i).belief = .own :=
    inv.settled.imp_left And.right
  have owned : ∀ i, race'.program i = .done (.ok .programmed) → (view i).belief = .own := by
    intro i finished
    rcases inv.finished finished with ⟨-, own⟩ | ⟨late, -⟩
    · exact own
    · cases late
  refine ⟨?_, ?_, ?_, ?_, ?_⟩
  · rcases written with none | ⟨i, own⟩
    · simp [none]
    · simp [(inv.of_own own).2]
  · rcases inv.settled with unwritten | ⟨i, own⟩
    · exact .inl unwritten
    · exact .inr ⟨i, inv.of_own own⟩
  · intro i result finished
    rcases inv.finished finished with ⟨rfl, own⟩ | ⟨rfl, filled⟩
    · exact .inl ⟨rfl, inv.of_own own⟩
    · refine .inr ⟨rfl, fun block mem => ?_⟩
      rcases written with none | ⟨j, own⟩
      · simp [none] at mem
      · rw [(inv.of_own own).2, List.mem_singleton] at mem
        obtain rfl : i = j := congrArg Prod.fst mem
        rw [filled] at own
        cases own
  · exact fun i j first second => alone i j (owned i first) (owned j second)
  · rintro ⟨first⟩ finished
    have someone : ∃ i, (view i).belief = .own := by
      obtain ⟨result, left⟩ := finished first
      rcases inv.finished left with ⟨-, own⟩ | ⟨-, filled⟩
      · exact ⟨first, own⟩
      · -- What it has seen was written by somebody.
        exact inv.settled.resolve_left fun blank => inv.of_filled filled blank.1
    obtain ⟨i, own⟩ := someone
    obtain ⟨result, left⟩ := finished i
    refine ⟨i, ?_, fun j other => alone j i (owned j other) own⟩
    rcases inv.finished left with ⟨rfl, -⟩ | ⟨-, filled⟩
    · exact left
    · rw [filled] at own
      cases own

/-! ### Schedules -/

/-- The next question of a process, if it has one and does not have to wait. -/
def advance (race : Race ι) (i : ι) : Race ι :=
  match race.program i with
  | .done _ => race
  | .ask action next =>
    if action = .lock ∧ ∃ j ∈ race.holder, j ≠ i then race else race.turn i action next

def play (race : Race ι) (schedule : List ι) : Race ι := schedule.foldl advance race

theorem reaches_advance (race : Race ι) (i : ι) :
    Relation.ReflTransGen Step race (race.advance i) := by
  unfold advance
  split
  · exact .refl
  · next action next asks =>
    split
    · exact .refl
    · next ready =>
      refine .single (.turn i action next asks ?_)
      intro locks j held
      by_contra other
      exact ready ⟨locks, j, held, other⟩

theorem reaches_play (race : Race ι) (schedule : List ι) :
    Relation.ReflTransGen Step race (race.play schedule) := by
  induction schedule generalizing race with
  | nil => exact .refl
  | cons i rest ih => exact (reaches_advance race i).trans (ih _)

end

/-- What a process has come to, if it has finished without an error. -/
def outcome? (race : Race ι) (i : ι) : Option ProvisionOutcome :=
  match race.program i with
  | .done (.ok outcome) => some outcome
  | _ => none

theorem program_of_outcome? {i : ι} {outcome : ProvisionOutcome}
    (h : race.outcome? i = some outcome) : race.program i = .done (.ok outcome) := by
  unfold outcome? at h
  split at h
  · next eq =>
    cases h
    exact eq
  · cases h

/-- Two processes that draw different values for a blank device. -/
def duel : Race Bool where
  device := .blank
  holder := none
  program _ := Keeper.standard.provide.run
  machine first := .start .blank [if first then Machine.standardDraw else Vector.replicate 32 7]
  events := []

/-- Both look before either of them locks. -/
def turns : List Bool := (List.replicate 24 [true, false]).flatten

/-- Two processes in turn, on one device: both come to an end, and one of them has written. -/
theorem one_writer_duel : duel.Start .privateKey Mailbox.standardPath ∧
    Relation.ReflTransGen Step duel (duel.play turns) ∧
    (∀ i, ∃ result, (duel.play turns).program i = .done result) ∧
    (duel.play turns).writes.length ≤ 1 ∧
    ∃! i, (duel.play turns).program i = .done (.ok .programmed) := by
  have start : duel.Start .privateKey Mailbox.standardPath :=
    ⟨⟨rfl, rfl, List.not_mem_nil⟩, rfl, rfl, rfl, fun _ => ⟨.standard, 0, rfl⟩, by decide +kernel⟩
  have first : (duel.play turns).outcome? true = some .programmed := by decide +kernel
  have second : (duel.play turns).outcome? false = some .alreadyProgrammed := by decide +kernel
  have finished : ∀ i, ∃ result, (duel.play turns).program i = .done result := by
    rintro (_ | _)
    · exact ⟨_, program_of_outcome? second⟩
    · exact ⟨_, program_of_outcome? first⟩
  have run := reaches_play duel turns
  have settled := one_writer start run
  exact ⟨start, run, finished, settled.1, settled.2.2.2.2 ⟨true⟩ finished⟩

end Race

end DeviceKeys
