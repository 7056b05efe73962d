import DeviceKeys.Proofs.Deeds
import DeviceKeys.Proofs.Diagnostics
import DeviceKeys.Proofs.Idle

/-!
# What the steps of a session do in the life of media

A step of a session makes a medium of the device, closes or drops one, makes and ends some of its
own while it reports on the device, or does nothing of the kind. Which of these it is can be told
before the step is taken (`Session.concern`), and the deeds of the step are accordingly
(`Session.accounted`): it makes a medium exactly if the region is free, and keeps it; it ends the
one medium that it closes, or that no other name leads to; and all other steps leave the claims of
the process alone, since the functions behind them ask neither for a claim nor for its end.
-/

set_option autoImplicit false

namespace DeviceKeys

open DeviceKeys.Action (IsIdle)
open Program (Asks asks_pure asks_perform asks_log)

/-! ## Idle programs -/

/-- Idle programs do nothing with claims. -/
theorem Program.Asks.deeds {α : Type} {program : Program α} (h : program.Asks IsIdle)
    (m : Machine) : program.excerpt Moment.deed? m = [] := by
  induction program generalizing m with
  | done value => rfl
  | ask action next ih =>
    have nothing : (⟨m, action⟩ : Moment).deed? = none := by
      cases action with
      | claim region => exact absurd h.1 not_false
      | release id => exact absurd h.1 not_false
      | _ => rfl
    refine (List.filterMap_cons_none nothing).trans ?_
    exact ih _ (h.2 _ () trivial) _

/-- Behind an idle attempt that gave a value, all deeds are those of what follows. -/
theorem Program.Asks.deeds_bind {ε α β : Type} {x : Attempt ε α} {next : α → Attempt ε β}
    {m m' : Machine} {value : α} (idle : x.run.Asks IsIdle)
    (run : x.run.run m = (.ok value, m')) :
    (x >>= next).run.excerpt Moment.deed? m = (next value).run.excerpt Moment.deed? m' := by
  rw [Program.excerpt_attempt_bind, idle.deeds, run]
  rfl

/-! ## Claiming a region -/

namespace Medium

variable {region : Region} {path : String} {m : Machine}

/-- To make a medium is to claim its region, once. -/
theorem deeds_claim (region : Region) (path : String) (m : Machine) :
    (claim region path).run.excerpt Moment.deed? m =
      (⟨m, .claim region⟩ : Moment).deed?.toList := by
  refine (Program.excerpt_bind_silent _ ?_ m).trans ?_
  · intro granted m
    cases granted with
    | some id => rfl
    | none => rfl
  · exact (Program.excerpt_lift _ _ m).trans (Program.excerpt_perform _ _ m)

theorem deeds_claim_of_claimed (claimed : m.claims.isClaimed region) :
    (claim region path).run.excerpt Moment.deed? m = [.refused region] := by
  rw [deeds_claim, Moment.deed?_of_claimed rfl claimed]
  rfl

theorem deeds_claim_of_free (free : m.claims.isClaimed region = false) :
    (claim region path).run.excerpt Moment.deed? m = [.made m.claims.granted region] := by
  rw [deeds_claim, Moment.deed?_of_free rfl free]
  rfl

/-- A region that is claimed cannot be claimed again. -/
theorem run_claim_of_claimed (claimed : m.claims.isClaimed region) :
    (claim region path).run.run m = (.error (.regionClaimed region), m) := by
  rw [claim, Program.run_attempt_bind, Program.run_lift, Program.run_perform, Machine.answer]
  simp only [Claims.claim, claimed, if_true]
  rfl

end Medium

/-! ## Reports -/

namespace Deed

/-- Media that were made, and ended at once, one after the other. -/
def passing (looks : List (ClaimId × Region)) : List Deed :=
  looks.flatMap fun (id, region) => [made id region, ended id]

/-- The deed behind a failure that says that a region is claimed. -/
def refusal {α : Type} : Except Error α → List Deed
  | .error (.regionClaimed region) => [refused region]
  | _ => []

@[simp] theorem refusal_map {α β : Type} (f : α → β) (result : Except Error α) :
    refusal (result.map f) = refusal result := by
  cases result with
  | ok value => rfl
  | error err => cases err <;> rfl

end Deed

namespace Keeper

variable {α β : Type} {keeper : Keeper} {m : Machine}

/-- The deeds of a look around: each medium that was made is for a region that is not the keeper's
own and has ended again; and if one could not be made, the look around failed with that. -/
def Passes (keeper : Keeper) (result : Except Error α) (deeds : List Deed) : Prop :=
  ∃ looks, deeds = Deed.passing looks ++ Deed.refusal result ∧
    ∀ look ∈ looks, keeper.medium.region? ≠ some look.2

/-- Two looks in a row pass as one does, unless the first is refused. -/
theorem Passes.bind {x : Attempt Error α} {next : α → Attempt Error β}
    (first : keeper.Passes (x.run.run m).1 (x.run.excerpt Moment.deed? m))
    (second : ∀ value m, keeper.Passes ((next value).run.run m).1
      ((next value).run.excerpt Moment.deed? m)) :
    keeper.Passes ((x >>= next).run.run m).1 ((x >>= next).run.excerpt Moment.deed? m) := by
  obtain ⟨looks, deeds, apart⟩ := first
  rw [Program.excerpt_attempt_bind, Program.run_attempt_bind, deeds]
  cases (x.run.run m).1 with
  | error err => exact ⟨looks, by rw [List.append_nil]; cases err <;> rfl, apart⟩
  | ok value =>
    obtain ⟨more, further, apart'⟩ := second value (x.run.run m).2
    refine ⟨looks ++ more, ?_, List.forall_mem_append.2 ⟨apart, apart'⟩⟩
    simp only [further, Deed.refusal, Deed.passing, List.append_nil, List.flatMap_append,
      List.append_assoc]

/-- A look through a medium does not fail with a region that is claimed. -/
theorem refusal_inspect (medium : Medium) (m : Machine) :
    Deed.refusal (medium.inspect.run.run m).1 = [] := by
  cases seen : (medium.inspect.run.run m).1 with
  | ok state => rfl
  | error err =>
    obtain ⟨cause, rfl⟩ := Medium.inspect_eq_error seen
    rfl

/-- Behind a look through a medium that is made for it stands the end of that medium, whatever was
seen. -/
theorem deeds_look (region : Region) (path : String) (id : ClaimId) (m : Machine) :
    let medium := Medium.otp region path id
    let look := Program.ensuring medium.inspect (liftM medium.close)
    look.run.excerpt Moment.deed? m = [.ended id] ∧ Deed.refusal (look.run.run m).1 = [] := by
  dsimp only
  rw [Program.excerpt_ensuring, (Medium.idle_inspect _).deeds, Program.run_ensuring]
  exact ⟨rfl, refusal_inspect _ _⟩

/-- A look at the other region makes a medium and gives it back, and a look at the own region needs
none. -/
theorem passes_stateOf (region : Region) (m : Machine) : keeper.Passes
    ((keeper.stateOf region).run.run m).1 ((keeper.stateOf region).run.excerpt Moment.deed? m) := by
  by_cases own : keeper.medium.region? = some region
  · simp only [stateOf, if_pos own]
    refine ⟨[], ?_, List.forall_mem_nil _⟩
    rw [(Medium.idle_inspect _).deeds, refusal_inspect]
    rfl
  simp only [stateOf, if_neg own]
  rw [Program.excerpt_attempt_bind, Program.run_attempt_bind]
  cases claimed : m.claims.isClaimed region with
  | true =>
    rw [Medium.run_claim_of_claimed claimed, Medium.deeds_claim_of_claimed claimed]
    exact ⟨[], rfl, List.forall_mem_nil _⟩
  | false =>
    rw [Medium.run_claim claimed, Medium.deeds_claim_of_free claimed]
    obtain ⟨deeds, refusal⟩ := deeds_look region keeper.settings.path m.claims.granted
      { m with claims := (m.claims.claim region).2 }
    refine ⟨[(m.claims.granted, region)], ?_, List.forall_mem_singleton.2 own⟩
    dsimp only
    rw [deeds, refusal]
    rfl

theorem passes_report (keeper : Keeper) (m : Machine) :
    keeper.Passes (keeper.report.run.run m).1 (keeper.report.run.excerpt Moment.deed? m) := by
  refine (passes_stateOf .privateKey m).bind fun privateKey m => ?_
  refine (passes_stateOf .customer m).bind fun customer m => ?_
  exact ⟨[], rfl, List.forall_mem_nil _⟩

end Keeper

/-! ## Making media -/

/-- The medium that an item is, or has. -/
def Item.medium? : Item → Option Medium
  | .medium m => some m
  | .keeper k => some k.medium
  | .settings _ | .handle _ => none

theorem Item.claim?_eq (item : Item) : item.claim? = item.medium?.bind Medium.claim? := by
  cases item <;> rfl

/-- Where the region is claimed nothing is made, and that is the failure; where it is free an item
is made, with a medium that has the region. -/
def Makes (region : Region) (claims : Claims) (result : Except Error (Item × Answer))
    (deeds : List Deed) : Prop :=
  if claims.isClaimed region then
    result = .error (.regionClaimed region) ∧ deeds = [.refused region]
  else ∃ item answer id path, result = .ok (item, answer) ∧
    item.medium? = some (.otp region path id) ∧ deeds = [.made id region]

/-- A region is claimed, and then the medium is put into an item without further ado. -/
theorem Medium.makes_claim (region : Region) (path : String) (m : Machine)
    {next : Medium → Attempt Error (Item × Answer)}
    (idle : ∀ medium, (next medium).run.Asks IsIdle)
    (kept : ∀ medium m, ∃ item answer, ((next medium).run.run m).1 = .ok (item, answer) ∧
      item.medium? = some medium) :
    Makes region m.claims ((claim region path >>= next).run.run m).1
      ((claim region path >>= next).run.excerpt Moment.deed? m) := by
  rw [Program.excerpt_bind_silent _ fun medium m => (idle medium).deeds m,
    Program.run_attempt_bind, Makes]
  split
  next claimed =>
    rw [run_claim_of_claimed claimed, deeds_claim_of_claimed claimed]
    exact ⟨rfl, rfl⟩
  next free =>
    rw [Bool.not_eq_true] at free
    rw [run_claim free, deeds_claim_of_free free]
    obtain ⟨item, answer, made, own⟩ := kept (.otp region path m.claims.granted)
      { m with claims := (m.claims.claim region).2 }
    exact ⟨item, answer, _, path, made, own, rfl⟩

/-- What is done before a region is claimed and leaves the claims alone makes no difference. -/
theorem Makes.behind {α : Type} {region : Region} {m m' : Machine} {value : α}
    {x : Attempt Error α} {next : α → Attempt Error (Item × Answer)} (idle : x.run.Asks IsIdle)
    (run : x.run.run m = (.ok value, m')) (same : m'.claims = m.claims)
    (h : Makes region m'.claims ((next value).run.run m').1
      ((next value).run.excerpt Moment.deed? m')) :
    Makes region m.claims ((x >>= next).run.run m).1
      ((x >>= next).run.excerpt Moment.deed? m) := by
  rw [idle.deeds_bind run, Program.run_attempt_bind, run, ← same]
  exact h

/-- A medium that settings without an override ask for is that of their region. -/
theorem Medium.ofSettings_eq_claim {settings : Settings} (plain : settings.hasOverride = false) :
    ofSettings settings = claim settings.region settings.path := by
  unfold ofSettings
  split
  next text override => simp [Settings.hasOverride, override] at plain
  next => rfl

/-- A keeper without a medium given to it claims the region of its settings. -/
theorem Keeper.makes_make {settings : Settings} (plain : settings.hasOverride = false)
    (m : Machine) :
    let body : Attempt Error (Item × Answer) := do
      let keeper ← make settings none
      return (.keeper keeper, .text keeper.text)
    Makes settings.region m.claims (body.run.run m).1 (body.run.excerpt Moment.deed? m) := by
  dsimp only
  simp only [make, Medium.ofSettings_eq_claim plain, bind_assoc]
  refine Medium.makes_claim settings.region settings.path m ?_ ?_
  · intro medium
    exact (Program.idle_log _ _).run_lift.run_bind fun _ => asks_pure _
  · intro medium m
    exact ⟨.keeper ⟨settings, medium⟩, _, rfl, rfl⟩

/-! ## Steps -/

/-- What a step has to do with the media of the device. -/
inductive Concern where
  /-- It makes one for this region, to be kept under this name. -/
  | makes (name : String) (region : Region)
  /-- It closes this one, or drops it. -/
  | ends (id : ClaimId)
  /-- It looks at both regions of the device, as this keeper. -/
  | looks (keeper : Keeper)
  | nothing

/-- The concern of a step that makes what settings ask for, if there are settings. -/
def Concern.ofSettings (name : String) : Except Error Settings → Concern
  | .ok settings => if settings.hasOverride then .nothing else .makes name settings.region
  | .error _ => .nothing

section

variable {name : String} {settings : Settings}

theorem Concern.ofSettings_override (override : settings.hasOverride) :
    ofSettings name (.ok settings) = .nothing := if_pos override

theorem Concern.ofSettings_plain (plain : settings.hasOverride = false) :
    ofSettings name (.ok settings) = .makes name settings.region := if_neg (by simp [plain])

end

namespace Session

/-- The settings of the given name, or else those that the environment describes. -/
def chosen (s : Session) : Option String → Except Error Settings
  | some name => s.settings? name
  | none => .ok (.ofEnvironment s.environment none none)

/-- What a step is about to do. A medium is dropped with the last name that leads to it. -/
def concern (s : Session) : Step → Concern
  | .claimRegion name region _ => .makes name region
  | .selectMedium name settings => .ofSettings name (s.settings? settings)
  | .makeKeeper name settings none => .ofSettings name (s.chosen settings)
  | .operate name .close =>
    match (s.item? name).bind Item.claim? with
    | some id => .ends id
    | none => .nothing
  | .operate name .report =>
    match s.item? name with
    | some (.keeper keeper) => .looks keeper
    | _ => .nothing
  | .drop name =>
    match (s.item? name).bind Item.claim? with
    | some id => if (s.forget name).reaches id then .nothing else .ends id
    | none => .nothing
  | _ => .nothing

/-- A step does what it is concerned with. To make a medium fails exactly where its region is
claimed, with that error, and then changes nothing; otherwise what was made is kept. -/
def Accounted (s : Session) (m : Machine) (step : Step) : Prop :=
  let result := ((s.perform step).run m).1
  let deeds := (s.perform step).deeds m
  match s.concern step with
  | .makes name region =>
    if m.claims.isClaimed region then
      result = (.error (.regionClaimed region), s) ∧ deeds = [.refused region]
    else ∃ item answer id path, result = (.ok answer, s.keep name item) ∧
      item.medium? = some (.otp region path id) ∧ deeds = [.made id region]
  | .ends id => deeds = [.ended id]
  | .looks keeper => keeper.Passes result.1 deeds
  | .nothing => deeds = []

variable {s : Session} {m : Machine} {name : String}

theorem deeds_make (body : Attempt Error (Item × Answer)) :
    (s.make name body).excerpt Moment.deed? m = body.run.excerpt Moment.deed? m := by
  unfold make
  rw [Program.excerpt_bind]
  cases (body.run.run m).1 <;> exact List.append_nil _

theorem run_make (body : Attempt Error (Item × Answer)) : ((s.make name body).run m).1 =
    match (body.run.run m).1 with
    | .ok (item, answer) => (.ok answer, s.keep name item)
    | .error err => (.error err, s) := by
  unfold make
  rw [Program.run_bind]
  cases (body.run.run m).1 <;> rfl

/-- A step that claims one region for the item that it makes, or is refused. -/
theorem accounted_of_makes {step : Step} {region : Region} {body : Attempt Error (Item × Answer)}
    (concern : s.concern step = .makes name region) (same : s.perform step = s.make name body)
    (h : Makes region m.claims (body.run.run m).1 (body.run.excerpt Moment.deed? m)) :
    s.Accounted m step := by
  unfold Makes at h
  simp only [Accounted, concern, same, Program.deeds, deeds_make, run_make]
  split at h
  next claimed =>
    rw [if_pos claimed, h.1]
    exact ⟨rfl, h.2⟩
  next free =>
    obtain ⟨item, answer, id, path, made, own, deeds⟩ := h
    rw [if_neg free, made]
    exact ⟨item, answer, id, path, rfl, own, deeds⟩

/-- A step that is concerned with nothing is accounted for if it asks nothing about claims. -/
theorem accounted_of_idle {step : Step} (concern : s.concern step = .nothing)
    (h : (s.perform step).Asks IsIdle) : s.Accounted m step := by
  simp only [Accounted, concern]
  exact h.deeds m

theorem idle_make {body : Attempt Error (Item × Answer)} (h : body.run.Asks IsIdle) :
    (s.make name body).Asks IsIdle := by
  refine h.bind ?_
  intro result
  cases result with
  | ok made => exact asks_pure _
  | error err => exact asks_pure _

theorem idle_settingsOrEnvironment (given : Option String) :
    (s.settingsOrEnvironment given).run.Asks IsIdle := by
  cases given with
  | some other => exact asks_pure _
  | none => exact (Settings.idle_load _ _ _).run_lift

/-- The settings that were chosen are those that a keeper is made with. -/
theorem run_settingsOrEnvironment {given : Option String} {settings : Settings}
    (chosen : s.chosen given = .ok settings) (m : Machine) :
    ∃ log, (s.settingsOrEnvironment given).run.run m = (.ok settings, { m with log }) := by
  cases given with
  | some other =>
    have found : s.settings? other = .ok settings := chosen
    refine ⟨m.log, ?_⟩
    rw [settingsOrEnvironment, found]
    rfl
  | none =>
    obtain rfl := Except.ok.inj chosen
    obtain ⟨log, loaded⟩ := Settings.run_load s.environment none none m
    refine ⟨log, ?_⟩
    rw [settingsOrEnvironment, Program.run_lift, loaded]

theorem run_settingsOrEnvironment_error {given : Option String} {err : Error}
    (chosen : s.chosen given = .error err) :
    (s.settingsOrEnvironment given) = throw err := by
  cases given with
  | none => cases chosen
  | some other =>
    have missing : s.settings? other = .error err := chosen
    rw [settingsOrEnvironment, missing]
    rfl

theorem accounted_claimRegion (region : Region) (path : String) :
    s.Accounted m (.claimRegion name region path) := by
  refine accounted_of_makes rfl rfl (Medium.makes_claim region path m ?_ ?_)
  · exact fun medium => asks_pure _
  · exact fun medium m => ⟨.medium medium, _, rfl, rfl⟩

theorem accounted_selectMedium (settings : String) :
    s.Accounted m (.selectMedium name settings) := by
  cases found : s.settings? settings with
  | error err =>
    refine accounted_of_idle (by rw [concern, found]; rfl) (idle_make ?_)
    rw [found]
    exact asks_pure _
  | ok settings =>
    cases override : settings.hasOverride with
    | true =>
      refine accounted_of_idle (by rw [concern, found, Concern.ofSettings_override override])
        (idle_make ?_)
      rw [found]
      exact (Medium.idle_ofSettings override).run_bind fun _ => asks_pure _
    | false =>
      refine accounted_of_makes (by rw [concern, found, Concern.ofSettings_plain override]) rfl ?_
      rw [found]
      refine Makes.behind (asks_pure _) rfl rfl ?_
      rw [Medium.ofSettings_eq_claim override]
      refine Medium.makes_claim settings.region settings.path m ?_ ?_
      · exact fun medium => asks_pure _
      · exact fun medium m => ⟨.medium medium, _, rfl, rfl⟩

/-- A keeper of a medium that is there already. -/
theorem accounted_makeKeeper_of_medium (settings : Option String) (medium : String) :
    s.Accounted m (.makeKeeper name settings (some medium)) := by
  refine accounted_of_idle rfl (idle_make ((s.idle_settingsOrEnvironment settings).run_bind ?_))
  intro settings
  dsimp only
  cases s.medium? medium with
  | error err => exact asks_pure _
  | ok medium =>
    exact (Keeper.idle_make_of_medium settings medium).run_bind fun _ => asks_pure _

theorem accounted_makeKeeper (settings : Option String) :
    s.Accounted m (.makeKeeper name settings none) := by
  have idle := s.idle_settingsOrEnvironment settings
  cases chosen : s.chosen settings with
  | error err =>
    refine accounted_of_idle (by rw [concern, chosen]; rfl) (idle_make ?_)
    rw [run_settingsOrEnvironment_error chosen]
    exact asks_pure _
  | ok settings' =>
    obtain ⟨log, run⟩ := run_settingsOrEnvironment chosen m
    cases override : settings'.hasOverride with
    | true =>
      have concern : s.concern (.makeKeeper name settings none) = .nothing := by
        rw [concern, chosen, Concern.ofSettings_override override]
      have silent : (do
          let keeper ← Keeper.make settings' none
          return (.keeper keeper, .text keeper.text) : Attempt Error (Item × Answer)).run.Asks
            IsIdle :=
        (Keeper.idle_make_override override).run_bind fun _ => asks_pure _
      simp only [Accounted, concern]
      exact (deeds_make _).trans ((idle.deeds_bind run).trans (silent.deeds _))
    | false =>
      have concern : s.concern (.makeKeeper name settings none) =
          .makes name settings'.region := by
        rw [concern, chosen, Concern.ofSettings_plain override]
      exact accounted_of_makes concern rfl
        (Makes.behind idle run rfl (Keeper.makes_make override _))

theorem idle_operate {operation : Operation} (other : operation ≠ .close)
    (silent : operation ≠ .report) : (s.operate name operation).Asks IsIdle := by
  unfold operate
  split
  · exact (Item.idle_onMedium _ _ other).bind fun _ => asks_pure _
  · exact (Item.idle_onKeeper _ _ other silent).bind fun _ => asks_pure _
  · exact (Item.idle_onHandle _ _ _ _).bind fun _ => asks_pure _
  · exact asks_pure _
  · exact asks_pure _

/-- A close gives back the claim of the item, whether it is held still or not. -/
theorem accounted_close : s.Accounted m (.operate name .close) := by
  unfold Accounted concern
  simp only [perform, operate, Program.deeds]
  cases s.item? name with
  | none => rfl
  | some item =>
    cases item with
    | settings settings => rfl
    | handle handle =>
      exact ((Item.idle_onHandle _ name handle .close).bind fun _ => asks_pure _).deeds m
    | medium medium => cases medium <;> rfl
    | keeper keeper =>
      obtain ⟨settings, medium⟩ := keeper
      cases medium <;> rfl

/-- What a report claims it gives back, so that nothing is left over. -/
theorem accounted_report : s.Accounted m (.operate name .report) := by
  unfold Accounted concern
  simp only [perform, operate, Program.deeds]
  cases s.item? name with
  | none => rfl
  | some item =>
    cases item with
    | settings settings => rfl
    | medium medium => rfl
    | handle handle =>
      exact ((Item.idle_onHandle _ name handle .report).bind fun _ => asks_pure _).deeds m
    | keeper keeper =>
      -- What the report is turned into shows the same refusal, or none.
      obtain ⟨looks, deeds, apart⟩ := keeper.passes_report m
      have answered : ((Item.onKeeper name keeper .report).run.run m).1 =
          (keeper.report.run.run m).1.map .report := congrArg _ (Program.run_attempt_map _ _ m)
      have done : (Item.onKeeper name keeper .report).run.excerpt Moment.deed? m =
          keeper.report.run.excerpt Moment.deed? m := Program.excerpt_attempt_map _ _ _ m
      refine ⟨looks, ?_, apart⟩
      rw [Program.excerpt_bind, Program.excerpt_pure, List.append_nil, done, deeds,
        Program.run_bind, Program.run_pure, answered, Deed.refusal_map]

/-- To forget the last name of a medium is to close it. -/
theorem accounted_drop : s.Accounted m (.drop name) := by
  unfold Accounted concern
  simp only [perform, drop, Program.deeds]
  cases (s.item? name).bind Item.claim? with
  | none => rfl
  | some id =>
    cases reached : (s.forget name).reaches id with
    | true =>
      simp only [reached]
      rfl
    | false =>
      simp only [reached]
      rfl

/-- Every step does what it is concerned with, in every session and on every machine. -/
theorem accounted (s : Session) (m : Machine) (step : Step) : s.Accounted m step := by
  cases step with
  | alterDevice change => exact accounted_of_idle rfl (asks_pure _)
  | makeSettings name fields =>
    exact accounted_of_idle rfl (idle_make (Asks.run_bind (asks_pure _) fun _ => asks_pure _))
  | loadSettings name customerRegion salt =>
    exact accounted_of_idle rfl (idle_make
      ((Settings.idle_load _ _ _).run_lift.run_bind fun _ => asks_pure _))
  | claimRegion name region path => exact accounted_claimRegion region path
  | makeOverride name seed => exact accounted_of_idle rfl (idle_make (asks_pure _))
  | selectMedium name settings => exact accounted_selectMedium settings
  | makeKeeper name settings medium =>
    cases medium with
    | some medium => exact accounted_makeKeeper_of_medium settings medium
    | none => exact accounted_makeKeeper settings
  | openHandle name path =>
    exact accounted_of_idle rfl (idle_make
      (((Handle.asks_openAt trivial).run_adapt _).run_bind fun _ => asks_pure _))
  | operate name operation =>
    by_cases closes : operation = .close
    · exact closes ▸ accounted_close
    by_cases reports : operation = .report
    · exact reports ▸ accounted_report
    refine accounted_of_idle ?_ (idle_operate closes reports)
    cases operation with
    | close => exact absurd rfl closes
    | report => exact absurd rfl reports
    | _ => rfl
  | drop name => exact accounted_drop
  | mailboxPresent path =>
    exact accounted_of_idle rfl ((asks_perform trivial).bind fun _ => asks_pure _)
  | offersPrivateKey path =>
    exact accounted_of_idle rfl ((Handle.idle_offersPrivateKey path).bind fun _ => asks_pure _)

end Session

end DeviceKeys
