import DeviceKeys.Proofs.Excerpts
import DeviceKeys.Proofs.Secret

/-!
# The shape of every session with the device

Whatever a medium or a keeper does with the device, it does in sessions that are bracketed: a file
that was opened is closed and a lock that was granted is given back, once each and whatever failed
in between or fails in giving them back. Inside the brackets the calls that are due are made one by
one (`Pursued`), and the first that does not lead on is the last. No call is made twice.

A visit to a region is one such session and programming a region is another. An operation of a
keeper is a visit, behind which at most one more session stands; whether it stands there is decided
by the state that the visit found, and by nothing else.
-/

set_option autoImplicit false

namespace DeviceKeys

/-! ## Shapes -/

/-- What was entered is left, once and whatever happened inside and in leaving it. What could not be
entered is neither gone through nor left. -/
inductive Bracketed (enter leave : Event) (inside : List Exchange → Prop) : List Exchange → Prop
  | refused (err : CallError) : Bracketed enter leave inside [⟨enter, .error err⟩]
  | entered {body : List Exchange} (value : Block) (within : inside body)
      (left : Except CallError Block) :
      Bracketed enter leave inside (⟨enter, .ok value⟩ :: (body ++ [⟨leave, left⟩]))

/-- A call that is due, and the answers to it that lead on. -/
structure Stage where
  event : Event
  leads : Block → Prop

/-- The calls that are due are made in their order, once each, up to the first one that fails or
whose answer does not lead on. -/
inductive Pursued : List Stage → List Exchange → Prop
  | nil : Pursued [] []
  | failed {stage : Stage} {rest : List Stage} (err : CallError) :
      Pursued (stage :: rest) [⟨stage.event, .error err⟩]
  | ended {stage : Stage} {rest : List Stage} {value : Block} (answer : ¬stage.leads value) :
      Pursued (stage :: rest) [⟨stage.event, .ok value⟩]
  | onward {stage : Stage} {rest : List Stage} {value : Block} {behind : List Exchange}
      (answer : stage.leads value) (pursued : Pursued rest behind) :
      Pursued (stage :: rest) (⟨stage.event, .ok value⟩ :: behind)

/-- A single call that is due is made, whatever comes of it. -/
theorem Pursued.single (event : Event) (outcome : Except CallError Block) :
    Pursued [⟨event, fun _ => True⟩] [⟨event, outcome⟩] := by
  cases outcome with
  | error err => exact .failed err
  | ok value => exact .onward trivial .nil

/-- What holds of all calls that are due holds of those that are made. -/
theorem Pursued.forall_mem {stages : List Stage} {xs : List Exchange} (h : Pursued stages xs)
    {P : Event → Prop} (due : ∀ stage ∈ stages, P stage.event) : ∀ x ∈ xs, P x.event := by
  induction h with
  | nil => exact List.forall_mem_nil _
  | failed _ | ended _ => exact List.forall_mem_singleton.2 (due _ List.mem_cons_self)
  | onward _ _ ih =>
    rw [List.forall_mem_cons] at due ⊢
    exact ⟨due.1, ih due.2⟩

/-- A visit: the file is opened, the region read once, and the file closed. -/
def Visiting (region : Region) (path : String) : List Exchange → Prop :=
  Bracketed (.openAt path) .close (Pursued [⟨.request (.read region), fun _ => True⟩])

/-- The calls under the lock. Only zeros lead from the first read on to the write. -/
def burning (region : Region) (value : Block) : List Stage :=
  [⟨.request (.read region), (· = Block.zero)⟩, ⟨.request (.write region value), fun _ => True⟩,
    ⟨.request (.read region), fun _ => True⟩]

/-- Programming: the file is opened, the lock taken inside, and the value burned inside that. -/
def Programming (region : Region) (path : String) (value : Block) : List Exchange → Prop :=
  Bracketed (.openAt path) .close (Bracketed .lock .unlock (Pursued (burning region value)))

/-! ## Media -/

section

variable {region : Region} {path : String} {value : Block} {calls : List Moment}

/-- A visit is a bracket of open and close around one read. -/
theorem Handle.Visited.visiting {seen : Except CallError Block}
    (h : Visited region path seen calls) :
    Visiting region path (calls.filterMap Moment.exchange?) := by
  cases h with
  | unopened opens =>
    rw [List.filterMap_cons_some opens.exchange?_of_error]
    exact .refused _
  | @bracketed o r c result closed opens reads closes =>
    obtain ⟨opened, openExchange⟩ := opens.exchange?_of_ok
    have closeExchange := Moment.exchange?_of_event? closes.1
    rw [List.filterMap_cons_some openExchange, List.filterMap_cons_some reads.exchange?,
      List.filterMap_cons_some closeExchange]
    exact .entered opened (Pursued.single _ result) c.outcome

/-- A burning goes through its three stages, and stops at the first that fails. -/
theorem Medium.Burnt.pursued {result : Except Error Unit} (h : Burnt region value result calls) :
    Pursued (burning region value) (calls.filterMap Moment.exchange?) := by
  cases h with
  | refused reads | unread reads =>
    rw [List.filterMap_cons_some reads.exchange?]
    exact .failed _
  | @occupied r current reads found =>
    have filled : ¬current = Block.zero := by
      rintro rfl
      exact absurd found (by decide)
    rw [List.filterMap_cons_some reads.exchange?]
    exact .ended filled
  | unwritten reads writes =>
    rw [List.filterMap_cons_some reads.exchange?,
      List.filterMap_cons_some writes.exchange?_of_error]
    exact .onward rfl (.failed _)
  | unchecked reads writes rereads | differing reads writes rereads _
  | burnt reads writes rereads =>
    -- From here on the last read decides the result, and no call.
    obtain ⟨written, writeExchange⟩ := writes.exchange?_of_ok
    rw [List.filterMap_cons_some reads.exchange?, List.filterMap_cons_some writeExchange,
      List.filterMap_cons_some rereads.exchange?]
    exact .onward rfl (.onward trivial (.single _ _))

/-- Programming is that burning in two brackets, of the file and of the lock. -/
theorem Medium.Programmed.programming {result : Except Error Unit}
    (h : Programmed region path value result calls) :
    Programming region path value (calls.filterMap Moment.exchange?) := by
  cases h with
  | unopened opens =>
    rw [List.filterMap_cons_some opens.exchange?_of_error]
    exact .refused _
  | @unlocked o l c err closed opens locks closes =>
    obtain ⟨opened, openExchange⟩ := opens.exchange?_of_ok
    have closeExchange := Moment.exchange?_of_event? closes.1
    rw [List.filterMap_cons_some openExchange, List.filterMap_cons_some locks.exchange?_of_error,
      List.filterMap_cons_some closeExchange]
    exact .entered opened (Bracketed.refused err) c.outcome
  | @bracketed o l u c body result unlocked closed opens locks burnt unlocks closes =>
    obtain ⟨opened, openExchange⟩ := opens.exchange?_of_ok
    obtain ⟨granted, lockExchange⟩ := locks.exchange?_of_ok
    have unlockExchange := Moment.exchange?_of_event? unlocks.1
    have closeExchange := Moment.exchange?_of_event? closes.1
    have shape : ([o, l] ++ body ++ [u, c]).filterMap Moment.exchange? =
        ⟨.openAt path, .ok opened⟩ ::
          ((⟨.lock, .ok granted⟩ :: (body.filterMap Moment.exchange? ++ [⟨.unlock, u.outcome⟩])) ++
            [⟨.close, c.outcome⟩]) := by
      simp [openExchange, lockExchange, unlockExchange, closeExchange]
    rw [shape]
    exact .entered opened (.entered granted burnt.pursued u.outcome) c.outcome

end

namespace Medium

/-- Each operation of a medium of the device is a single session. -/
structure Orderly (medium : Medium) (region : Region) (path : String) (m : Machine) : Prop where
  inspect : Visiting region path (medium.inspect.run.exchanges m)
  fetch : Visiting region path (medium.fetch.run.exchanges m)
  program : ∀ value : Block,
    Programming region path value ((medium.program value.toList).run.exchanges m)

theorem visiting_inspect (region : Region) (path : String) (claim : ClaimId) (m : Machine) :
    Visiting region path ((otp region path claim).inspect.run.exchanges m) := by
  obtain ⟨seen, visited, -⟩ := inspected region path m
  rw [Program.exchanges_eq_calls]
  exact visited.visiting

theorem exchanges_fetch (region : Region) (path : String) (claim : ClaimId) (m : Machine) :
    (otp region path claim).fetch.run.exchanges m = (Handle.visit region path).run.exchanges m := by
  refine (Program.excerpt_bind_silent _ (fun _ _ => rfl) m).trans ?_
  exact Program.excerpt_adapt _ _ _ _

theorem visiting_fetch (region : Region) (path : String) (claim : ClaimId) (m : Machine) :
    Visiting region path ((otp region path claim).fetch.run.exchanges m) := by
  rw [exchanges_fetch, Program.exchanges_eq_calls]
  exact (Handle.visited region path m).visiting

theorem programming_program (region : Region) (path : String) (claim : ClaimId) (value : Block)
    (m : Machine) : Programming region path value
      (((otp region path claim).program value.toList).run.exchanges m) := by
  rw [program_toList, Program.exchanges_eq_calls]
  exact (programmed region path value m).programming

end Medium

/-! ## Keepers -/

namespace Keeper

/-- A look at the state, and behind it something more exactly if that was the state it found. -/
def Led (keeper : Keeper) (m : Machine) (state : RegionState) (more : List Exchange → Prop)
    (exchanges : List Exchange) : Prop :=
  ∃ behind, exchanges = keeper.state.run.exchanges m ++ behind ∧
    ((keeper.state.run.run m).1 = .ok state → more behind) ∧
    ((keeper.state.run.run m).1 ≠ .ok state → behind = [])

/-- A draw, and a session that programs what was drawn. -/
def Providing (region : Region) (path : String) (exchanges : List Exchange) : Prop :=
  ∃ value programming, exchanges = ⟨.random, .ok value⟩ :: programming ∧
    Programming region path value programming

/-- The operations of a keeper of the device are sessions in a row. A look is a visit. The secret
takes a second visit, behind a look that found the region programmed; a key takes no more than the
secret; and to provide the region takes a draw and the programming of what was drawn, behind a look
that found the region blank. -/
structure Orderly (keeper : Keeper) (region : Region) (path : String) (m : Machine) : Prop where
  state : Visiting region path (keeper.state.run.exchanges m)
  isProvided : Visiting region path (keeper.isProvided.run.exchanges m)
  secret : keeper.Led m .programmed (Visiting region path) (keeper.secret.run.exchanges m)
  key : ∀ label length,
    keeper.Led m .programmed (Visiting region path) ((keeper.key label length).run.exchanges m)
  hexKey : ∀ label length,
    keeper.Led m .programmed (Visiting region path) ((keeper.hexKey label length).run.exchanges m)
  uuid : ∀ label,
    keeper.Led m .programmed (Visiting region path) ((keeper.uuid label).run.exchanges m)
  provide : keeper.Led m .blank (Providing region path) (keeper.provide.run.exchanges m)

section

variable (keeper : Keeper) (m : Machine)

/-! What the functions of a keeper add to the look that they begin with. -/

theorem exchanges_isProvided : keeper.isProvided.run.exchanges m = keeper.state.run.exchanges m :=
  Program.excerpt_bind_silent _ (fun _ _ => rfl) m

theorem exchanges_key (label : Label) (length : Int) :
    (keeper.key label length).run.exchanges m = keeper.secret.run.exchanges m := by
  refine Program.excerpt_bind_silent _ (fun secret m => ?_) m
  exact Program.excerpt_bind_silent _ (fun _ _ => rfl) m

theorem exchanges_hexKey (label : Label) (length : Int) :
    (keeper.hexKey label length).run.exchanges m = keeper.secret.run.exchanges m :=
  Program.excerpt_bind_silent _ (fun _ _ => rfl) m

theorem exchanges_uuid (label : Label) :
    (keeper.uuid label).run.exchanges m = keeper.secret.run.exchanges m :=
  Program.excerpt_bind_silent _ (fun _ _ => rfl) m

end

/-- An attempt that looks first goes on where the look found the state, if nothing follows behind
another state. -/
theorem led_bind {α : Type} {keeper : Keeper} {m : Machine} {state : RegionState}
    {more : List Exchange → Prop} {look : Attempt Error RegionState}
    {next : RegionState → Attempt Error α}
    (same : look.run.exchanges m = keeper.state.run.exchanges m)
    (seen : ∀ found, (look.run.run m).1 = .ok found ↔ (keeper.state.run.run m).1 = .ok found)
    (goesOn : ∀ m, more ((next state).run.exchanges m))
    (stops : ∀ found m, found ≠ state → (next found).run.exchanges m = []) :
    keeper.Led m state more ((look >>= next).run.exchanges m) := by
  refine ⟨_, (Program.excerpt_attempt_bind _ _ _ m).trans (congrArg (· ++ _) same), ?_, ?_⟩
  · intro here
    rw [(seen state).2 here]
    exact goesOn _
  · intro elsewhere
    cases found : (look.run.run m).1 with
    | error err => rfl
    | ok other =>
      refine stops other _ ?_
      rintro rfl
      exact elsewhere ((seen other).1 found)

variable (settings : Settings) (region : Region) (path : String) (claim : ClaimId) (m : Machine)

/-- Behind a look that found the region programmed there is one more visit. -/
theorem led_secret : Led ⟨settings, .otp region path claim⟩ m .programmed (Visiting region path)
    ((secret ⟨settings, .otp region path claim⟩).run.exchanges m) := by
  refine led_bind rfl (fun _ => Iff.rfl) ?_ ?_
  · intro m
    dsimp only
    rw [Program.exchanges, Program.excerpt_bind_silent]
    · exact Medium.visiting_fetch region path claim _
    · intro secret m
      split <;> rfl
  · intro found m other
    cases found with
    | programmed => exact absurd rfl other
    | _ => rfl

/-- A region that was found blank is provided in a draw and one session, which burns what was
drawn. -/
theorem providing_provideFresh : Providing region path
    ((provideFresh ⟨settings, .otp region path claim⟩).run.exchanges m) := by
  refine ⟨m.draws.headD Machine.standardDraw, _, ?_, Medium.programming_program region path claim _
    (m.answer .draw).2⟩
  refine (Program.excerpt_lift_bind _ _ _ m).trans
    (congrArg (Exchange.mk .random (.ok _) :: ·) ?_)
  refine (Program.excerpt_bind_silent _ ?_ _).trans (Program.excerpt_outcome _ _ _)
  intro result m
  split <;> rfl

/-- Behind a look that found the region blank there is the draw, and then the programming. -/
theorem led_provide : Led ⟨settings, .otp region path claim⟩ m .blank (Providing region path)
    ((provide ⟨settings, .otp region path claim⟩).run.exchanges m) := by
  refine led_bind (Program.excerpt_adapt _ _ _ m) ?_
    (providing_provideFresh settings region path claim) ?_
  · intro found
    rw [Program.run_adapt]
    cases ((state ⟨settings, .otp region path claim⟩).run.run m).1 <;> simp
  · intro found m other
    cases found with
    | blank => exact absurd rfl other
    | _ => rfl

/-- Every operation on the device keeps to the shape of its sessions, on every machine; and the
exchanges of a program are what stands behind the calls that the machine records of it. -/
theorem sessions_orderly :
    (Medium.otp region path claim).Orderly region path m ∧
    Orderly ⟨settings, .otp region path claim⟩ region path m ∧
    ∀ {α : Type} (program : Program α),
      (program.run m).2.events = m.events ++ (program.exchanges m).map Exchange.event where
  left := ⟨Medium.visiting_inspect region path claim m, Medium.visiting_fetch region path claim m,
    fun value => Medium.programming_program region path claim value m⟩
  right.right program := Program.events_run_exchanges program m
  right.left :=
    have look := Medium.visiting_inspect region path claim m
    have secret := led_secret settings region path claim m
    { state := look
      isProvided := exchanges_isProvided _ m ▸ look
      secret
      key label length := exchanges_key _ m label length ▸ secret
      hexKey label length := exchanges_hexKey _ m label length ▸ secret
      uuid label := exchanges_uuid _ m label ▸ secret
      provide := led_provide settings region path claim m }

end Keeper

end DeviceKeys
