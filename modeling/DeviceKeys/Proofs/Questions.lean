import DeviceKeys.Proofs.Provision
import DeviceKeys.Proofs.Runs
import DeviceKeys.Session

/-!
# Which questions a program asks

For some laws it does not matter what a program makes of the answers, only which questions it can
ask at all, whatever comes back. `Program.Asks` says so of the whole tree. Two kinds of questions
are told apart here: those of a look at a region, and those of programming it, which include the
look. Neither kind has to do with the claims of the process, and so a keeper leaves the claims alone
except where it reports on a region that is not its own.
-/

set_option autoImplicit false

namespace DeviceKeys

/-! ## Programs that ask certain questions only -/

/-- Surroundings that answer anything, as long as certain questions are asked only. -/
def questions (allowed : Action → Prop) : Contract Unit where
  allows _ action := allowed action
  answers _ _ _ _ := True

namespace Program

variable {α β ε ε' : Type} {allowed allowed' : Action → Prop}

def Asks (allowed : Action → Prop) (program : Program α) : Prop :=
  program.Meets (questions allowed) (fun _ _ => True) ()

theorem asks_pure (value : α) : (pure value : Program α).Asks allowed := trivial

theorem asks_perform {action : Action} (h : allowed action) : (perform action).Asks allowed :=
  (meets_perform action).2 ⟨h, fun _ _ _ => trivial⟩

theorem asks_log {level : Level} {text : String} (h : ∀ record, allowed (.log record)) :
    (log level text).Asks allowed := asks_perform (h ⟨level, text⟩)

/-- What the first program gives is unknown, so that the second one has to keep to the questions for
every value. -/
theorem Asks.bind {program : Program α} {next : α → Program β} (first : program.Asks allowed)
    (second : ∀ value, (next value).Asks allowed) : (program >>= next).Asks allowed := by
  refine meets_bind.2 (first.mono ?_)
  intro value _ _
  exact second value

theorem Asks.map {program : Program α} (f : α → β) (h : program.Asks allowed) :
    (f <$> program).Asks allowed := by
  rw [← bind_pure_comp]
  exact h.bind fun value => asks_pure (f value)

theorem Asks.mono {program : Program α} (h : program.Asks allowed)
    (more : ∀ action, allowed action → allowed' action) : program.Asks allowed' := by
  induction program with
  | done value => exact trivial
  | ask action next ih =>
    refine ⟨more action h.1, ?_⟩
    intro reply _ _
    exact ih reply (h.2 reply () trivial)

/-- An attempt that failed asks nothing more. -/
theorem Asks.run_bind {x : Attempt ε α} {next : α → Attempt ε β} (first : x.run.Asks allowed)
    (second : ∀ value, (next value).run.Asks allowed) : (x >>= next).run.Asks allowed := by
  rw [ExceptT.run_bind]
  refine first.bind ?_
  intro result
  cases result with
  | ok value => exact second value
  | error err => exact asks_pure _

theorem Asks.run_lift {program : Program α} (h : program.Asks allowed) :
    (liftM program : Attempt ε α).run.Asks allowed := h.map _

theorem Asks.run_map {x : Attempt ε α} (f : α → β) (h : x.run.Asks allowed) :
    (f <$> x).run.Asks allowed := by
  rw [ExceptT.run_map]
  exact h.map _

theorem Asks.run_adapt {x : Attempt ε α} (f : ε → ε') (h : x.run.Asks allowed) :
    (x.adapt f).run.Asks allowed := h.map _

theorem Asks.run_outcome {x : Attempt ε α} (h : x.run.Asks allowed) :
    (outcome x : Attempt ε' (Except ε α)).run.Asks allowed := h.map _

/-- The clean-up counts as much as the body. -/
theorem Asks.run_ensuring {x : Attempt ε α} {cleanup : Attempt ε Unit} (h : x.run.Asks allowed)
    (h' : cleanup.run.Asks allowed) : (ensuring x cleanup).run.Asks allowed := by
  refine h.bind fun result => h'.bind ?_
  intro cleaned
  cases cleaned with
  | ok _ => exact asks_pure _
  | error err => exact asks_pure _

/-- Claims are changed by claiming and releasing, and by no other question. -/
theorem Asks.claims_run {program : Program α} (h : program.Asks allowed)
    (claims : ∀ region, ¬allowed (.claim region)) (releases : ∀ id, ¬allowed (.release id))
    (m : Machine) : (program.run m).2.claims = m.claims := by
  induction program generalizing m with
  | done value => rfl
  | ask action next ih =>
    have kept : (m.answer action).2.claims = m.claims := by
      cases action with
      | claim region => exact absurd h.1 (claims region)
      | release id => exact absurd h.1 (releases id)
      | _ => rfl
    rw [← kept]
    exact ih _ (h.2 _ () trivial) _

end Program

/-! ## Looking and programming -/

/-- The questions of a look at a region. -/
inductive Action.Looks (region : Region) (path : String) : Action → Prop
  | opens : Looks region path (.openAt path)
  | reads : Looks region path
      (.transfer (.request (.ofNat (Mailbox.tagForReading region)) none))
  | closes : Looks region path .close
  | logs (record : Record) : Looks region path (.log record)

/-- The questions of programming a region. -/
inductive Action.Programs (region : Region) (path : String) : Action → Prop
  | looks {action : Action} (h : action.Looks region path) : Programs region path action
  | draws : Programs region path .draw
  | locks : Programs region path .lock
  | writes (value : Block) : Programs region path
      (.transfer (.request (.ofNat (Mailbox.tagForWriting region)) (some value)))
  | unlocks : Programs region path .unlock

open DeviceKeys.Action (Looks Programs)

namespace Handle

open Program (Asks)

variable {α ε : Type} {allowed : Action → Prop} {region : Region} {path : String}

theorem asks_call {answer : Program (Except Nat α)} (h : answer.Asks allowed) :
    (call answer).run.Asks allowed := h.bind fun _ => Program.asks_pure _

theorem asks_openAt (h : allowed (.openAt path)) : (openAt path).run.Asks allowed := by
  refine (Program.asks_perform h).bind ?_
  intro reply
  cases reply with
  | ok _ => exact Program.asks_pure _
  | error errno => exact Program.asks_pure _

theorem asks_close (handle : Handle) (h : allowed .close) : handle.close.Asks allowed := by
  unfold close
  split
  · refine (asks_call (Program.asks_perform h)).bind ?_
    intro result
    cases result with
    | ok _ => exact Program.asks_pure _
    | error err => exact Program.asks_pure _
  · exact Program.asks_pure _

theorem asks_exchange {tag : Nat} {value : Option Block}
    (h : allowed (.transfer (.request (.ofNat tag) value))) :
    (exchange tag value).run.Asks allowed := by
  refine (asks_call (Program.asks_perform h)).run_bind ?_
  intro answer
  split
  · exact Program.asks_pure _
  · exact Program.asks_pure _

theorem asks_send (h : ∀ buffer, allowed (.transfer buffer)) (tag : Int) (value : Option Bytes) :
    (send tag value).run.Asks allowed := by
  refine Asks.run_bind (Program.asks_pure _) ?_
  exact fun _ => (asks_exchange (h _)).run_adapt _

theorem asks_closing {refused : CallError → ε} {handle : Handle} {body : Attempt ε α}
    (closes : allowed .close) (h : body.run.Asks allowed) :
    (closing refused handle body).run.Asks allowed :=
  h.run_ensuring ((asks_close handle closes).bind fun _ => Program.asks_pure _)

theorem asks_locked {refused : CallError → ε} {body : Attempt ε α} (locks : allowed .lock)
    (unlocks : allowed .unlock) (h : body.run.Asks allowed) :
    (locked refused body).run.Asks allowed := by
  refine ((asks_call (Program.asks_perform locks)).run_adapt refused).run_bind ?_
  intro _
  exact h.run_ensuring ((asks_call (Program.asks_perform unlocks)).run_adapt refused)

theorem asks_visit (region : Region) (path : String) :
    (visit region path).run.Asks (Looks region path) :=
  (asks_openAt .opens).run_bind fun _ => asks_closing .closes (asks_exchange .reads)

end Handle

namespace Medium

open Program (Asks)

/-- A look is a visit and a line in the log. -/
theorem asks_inspectRegion (region : Region) (path : String) :
    (inspectRegion region path).run.Asks (Looks region path) := by
  refine (Handle.asks_visit region path).run_outcome.run_bind ?_
  intro seen
  have logged : ∀ (level : Level) (text : String) (state : RegionState),
      (do Program.log level text; return state : Attempt Error RegionState).run.Asks
        (Looks region path) :=
    fun level text _ => (Program.asks_log .logs).run_lift.run_bind fun _ => Program.asks_pure _
  cases seen with
  | ok value => exact logged _ _ _
  | error err =>
    show (ite _ _ _ : Attempt Error RegionState).run.Asks _
    split
    · exact logged _ _ _
    · cases err with
      | system errno path => exact Program.asks_pure _
      | rejected tag code => exact logged _ _ _

theorem asks_burn (region : Region) (path : String) (value : Block) :
    (burn region value).run.Asks (Programs region path) := by
  have reads : (Handle.read region).run.Asks (Programs region path) :=
    Handle.asks_exchange (.looks .reads)
  refine (reads.run_adapt _).run_bind ?_
  intro current
  show (ite _ _ _ : Attempt Error Unit).run.Asks _
  split
  · exact Program.asks_pure _
  · refine (Program.asks_log fun _ => .looks (.logs _)).run_lift.run_bind fun _ => ?_
    have burned := (Handle.asks_exchange (.writes value)).run_bind fun _ => reads
    refine (burned.run_adapt _).run_bind ?_
    intro written
    split
    · exact Program.asks_pure _
    · exact Program.asks_pure _

/-- To program a region takes a lock besides what a look takes. -/
theorem asks_programRegion (region : Region) (path : String) (value : Block) :
    (programRegion region path value).run.Asks (Programs region path) := by
  refine ((Handle.asks_openAt (.looks .opens)).run_adapt _).run_bind ?_
  intro handle
  refine (Handle.asks_closing (.looks .closes)
    (Handle.asks_locked .locks .unlocks (asks_burn region path value))).run_bind ?_
  intro _
  exact (Program.asks_log fun _ => .looks (.logs _)).run_lift

theorem asks_fetch (region : Region) (path : String) (claim : ClaimId) :
    (otp region path claim).fetch.run.Asks (Looks region path) :=
  ((Handle.asks_visit region path).run_adapt _).run_bind fun _ => Program.asks_pure _

/-- A secret of another size is refused without a question. -/
theorem asks_program (region : Region) (path : String) (claim : ClaimId) (bytes : Bytes) :
    ((otp region path claim).program bytes).run.Asks (Programs region path) := by
  cases size : Block.ofBytes? bytes with
  | none =>
    simp only [program, size]
    exact Program.asks_pure _
  | some value =>
    simp only [program, size]
    exact asks_programRegion region path value

end Medium

namespace Keeper

open Program (Asks)

variable (settings : Settings) (region : Region) (path : String) (claim : ClaimId)

theorem asks_provide :
    (provide ⟨settings, .otp region path claim⟩).run.Asks (Programs region path) := by
  have logged : ∀ (level : Level) (text : String) (outcome : ProvisionOutcome),
      (do Program.log level text; return outcome : Attempt Error ProvisionOutcome).run.Asks
        (Programs region path) :=
    fun level text _ => (Program.asks_log fun _ => .looks (.logs _)).run_lift.run_bind fun _ =>
      Program.asks_pure _
  refine (((Medium.asks_inspectRegion region path).mono fun _ => .looks).run_adapt _).run_bind ?_
  intro state
  cases state with
  | programmed => exact logged _ _ _
  | unavailable => exact Program.asks_pure _
  | blank =>
    refine (Program.asks_perform .draws).run_lift.run_bind ?_
    intro value
    rw [show (Medium.otp region path claim).program value.toList = _ from
      Medium.program_toList region path claim value]
    refine (Medium.asks_programRegion region path value).run_outcome.run_bind ?_
    intro result
    rcases result with err | _
    · cases err with
      | alreadyProgrammed region => exact logged _ _ _
      | _ => exact Program.asks_pure _
    · exact logged _ _ _

end Keeper

/-! ## Operations

What an operation asks is what the functions of its medium ask, whatever may be asked: lines of the
log are all that a keeper adds of its own. Closing counts only where something is closed. -/

theorem Settings.asks_load {allowed : Action → Prop} (logs : ∀ record, allowed (.log record))
    (env : Environment) (customerRegion : Option Bool) (salt : Option String) :
    (load env customerRegion salt).Asks allowed := by
  unfold load
  split
  · exact (Program.asks_log logs).bind fun _ => Program.asks_pure _
  · exact Program.asks_pure _

namespace Keeper

open Program (Asks asks_pure asks_log)

variable {allowed : Action → Prop} {keeper : Keeper}

theorem asks_make {settings : Settings} {medium : Option Medium}
    (logs : ∀ record, allowed (.log record))
    (claims : medium = none → (Medium.ofSettings settings).run.Asks allowed) :
    (make settings medium).run.Asks allowed := by
  cases medium with
  | some medium => exact (asks_log logs).run_lift.run_bind fun _ => asks_pure _
  | none =>
    refine (claims rfl).run_bind fun medium => ?_
    exact (asks_log logs).run_lift.run_bind fun _ => asks_pure _

/-- What reading a secret asks is what looks and readings of its medium ask. -/
theorem asks_secret (inspects : keeper.medium.inspect.run.Asks allowed)
    (fetches : keeper.medium.fetch.run.Asks allowed) : keeper.secret.run.Asks allowed := by
  refine inspects.run_bind ?_
  intro state
  cases state with
  | blank => exact asks_pure _
  | unavailable => exact asks_pure _
  | programmed =>
    refine fetches.run_bind ?_
    intro secret
    split
    · exact asks_pure _
    · exact asks_pure _

theorem asks_key (secret : keeper.secret.run.Asks allowed)
    (logs : ∀ record, allowed (.log record)) (label : Label) (length : Int) :
    (keeper.key label length).run.Asks allowed := by
  refine secret.run_bind fun secret => Asks.run_bind (asks_pure _) fun _ => ?_
  exact (asks_log logs).run_lift.run_bind fun _ => asks_pure _

end Keeper

namespace Item

open Program (Asks asks_pure)

variable {allowed : Action → Prop}

/-- An operation asks what the function behind it asks; the close is set apart, since it gives a
claim back. -/
theorem asks_onMedium (name : String) {medium : Medium} {operation : Operation}
    (inspects : medium.inspect.run.Asks allowed) (fetches : medium.fetch.run.Asks allowed)
    (programs : ∀ bytes, (medium.program bytes).run.Asks allowed)
    (closes : operation = .close → medium.close.Asks allowed) :
    (onMedium name medium operation).run.Asks allowed := by
  cases operation with
  | close => exact (closes rfl).run_lift.run_bind fun _ => asks_pure _
  | inspect => exact inspects.run_map _
  | program value => exact (programs value).run_bind fun _ => asks_pure _
  | fetch => exact fetches.run_map _
  | _ => exact asks_pure _

/-- As for a medium. The report is left out, since it makes media of its own. -/
theorem asks_onKeeper (name : String) {keeper : Keeper} {operation : Operation}
    (inspects : keeper.medium.inspect.run.Asks allowed)
    (fetches : keeper.medium.fetch.run.Asks allowed) (provides : keeper.provide.run.Asks allowed)
    (logs : ∀ record, allowed (.log record))
    (closes : operation = .close → keeper.close.Asks allowed) (silent : operation ≠ .report) :
    (onKeeper name keeper operation).run.Asks allowed := by
  have secret := Keeper.asks_secret inspects fetches
  cases operation with
  | report => exact absurd rfl silent
  | close => exact (closes rfl).run_lift.run_bind fun _ => asks_pure _
  | provide => exact provides.run_map _
  | state => exact inspects.run_map _
  | isProvided => exact (inspects.run_bind fun _ => asks_pure _).run_map _
  | secret => exact secret.run_map _
  | key label length => exact (Keeper.asks_key secret logs label length).run_map _
  | hexKey label length => exact (secret.run_bind fun _ => asks_pure _).run_map _
  | uuid label => exact (secret.run_bind fun _ => asks_pure _).run_map _
  | _ => exact asks_pure _

end Item

/-! ## Claims that stay -/

namespace Keeper

/-- A look leaves the claims of the process alone. -/
theorem claims_state (keeper : Keeper) (m : Machine) :
    (keeper.state.run.run m).2.claims = m.claims := by
  obtain ⟨settings, medium⟩ := keeper
  cases medium with
  | otp region path claim =>
    exact (Medium.asks_inspectRegion region path).claims_run (fun _ => nofun) (fun _ => nofun) m
  | override seed => rfl

/-- So does providing a region with a secret. -/
theorem claims_provide (keeper : Keeper) (m : Machine) :
    (keeper.provide.run.run m).2.claims = m.claims := by
  obtain ⟨settings, medium⟩ := keeper
  cases medium with
  | otp region path claim =>
    exact (asks_provide settings region path claim).claims_run (fun _ => nofun) (fun _ => nofun) m
  | override seed => rfl

end Keeper

end DeviceKeys
