import DeviceKeys.CommandLine.Execution
import DeviceKeys.Proofs.Provision
import DeviceKeys.Session

/-!
# Programs that write blank regions only

A program is guarded if on an honest device each of its writes finds its region blank. Guarded
programs can be put together in every way in which programs are, since a run leaves an honest device
honest, and a program that never writes is guarded for that reason alone. So there is one place
where something has to be said about the device: the write of `Medium.burn`, right behind its read.

From there the property is carried through the library, function by function, to the steps of a
session and to the command line. The one exception is the raw request to write, which is not guarded
by anything.
-/

set_option autoImplicit false

namespace DeviceKeys

namespace Program

variable {α β ε ε' : Type}

/-- Whatever an honest device answers, a region that is written is blank. -/
def Guarded (program : Program α) : Prop :=
  ∀ m : Machine, m.device.Honest → ∀ q ∈ program.calls m, q.WritesBlank

/-! ## Putting programs together -/

theorem guarded_pure (value : α) : (pure value : Program α).Guarded := by
  intro m _ q mem
  cases mem

/-- The second program starts on a device that the first one left honest. -/
theorem Guarded.bind {program : Program α} {next : α → Program β} (first : program.Guarded)
    (second : ∀ value, (next value).Guarded) : (program >>= next).Guarded := by
  intro m honest q mem
  rw [calls_bind] at mem
  rcases List.mem_append.1 mem with mem | mem
  · exact first m honest q mem
  · exact second _ _ ((program.linked_calls m).honest honest).2 q mem

theorem Guarded.map {program : Program α} (f : α → β) (h : program.Guarded) :
    (f <$> program).Guarded := by
  rw [← bind_pure_comp]
  exact h.bind fun value => guarded_pure (f value)

/-- A question that is no write is guarded on every device, whether honest or not. -/
theorem guarded_perform (action : Action) (reads : action.event?.bind Event.written? = none) :
    (perform action).Guarded := by
  intro m _ q mem region value writes
  have asked : q = ⟨m, action⟩ := List.mem_singleton.1 (List.mem_filter.1 mem).1
  have unwritten : q.written? = none := asked ▸ reads
  rw [unwritten] at writes
  cases writes

theorem guarded_log (level : Level) (text : String) : (log level text).Guarded :=
  guarded_perform (.log ⟨level, text⟩) rfl

/-! ## Putting attempts together -/

/-- The same for attempts, of which the second may not come to run at all. -/
theorem Guarded.run_bind {x : Attempt ε α} {next : α → Attempt ε β} (first : x.run.Guarded)
    (second : ∀ value, (next value).run.Guarded) : (x >>= next).run.Guarded := by
  rw [ExceptT.run_bind]
  refine first.bind ?_
  intro result
  cases result with
  | ok value => exact second value
  | error err => exact guarded_pure _

theorem guarded_return (value : α) : (pure value : Attempt ε α).run.Guarded := guarded_pure _

theorem guarded_ofExcept (result : Except ε α) : (ofExcept result).run.Guarded := guarded_pure _

theorem Guarded.run_lift {program : Program α} (h : program.Guarded) :
    (liftM program : Attempt ε α).run.Guarded := h.map _

theorem Guarded.run_map {x : Attempt ε α} (f : α → β) (h : x.run.Guarded) :
    (f <$> x).run.Guarded := by
  rw [ExceptT.run_map]
  exact h.map _

theorem Guarded.run_adapt {x : Attempt ε α} (f : ε → ε') (h : x.run.Guarded) :
    (x.adapt f).run.Guarded := h.map _

theorem Guarded.run_outcome {x : Attempt ε α} (h : x.run.Guarded) :
    (outcome x : Attempt ε' (Except ε α)).run.Guarded := h.map _

/-- A clean-up runs on what the body left, whether the body failed or not. -/
theorem Guarded.run_ensuring {x : Attempt ε α} {cleanup : Attempt ε Unit} (h : x.run.Guarded)
    (h' : cleanup.run.Guarded) : (ensuring x cleanup).run.Guarded := by
  refine h.bind fun result => h'.bind ?_
  intro cleaned
  cases cleaned with
  | ok _ => exact guarded_pure _
  | error err => exact guarded_pure _

end Program

/-! ## Handles -/

namespace Handle

open Program (Guarded)

variable {α ε : Type}

theorem guarded_call {answer : Program (Except Nat α)} (h : answer.Guarded) :
    (call answer).run.Guarded := h.bind fun _ => Program.guarded_pure _

theorem guarded_openAt (path : String) : (openAt path).run.Guarded := by
  refine (Program.guarded_perform (.openAt path) rfl).bind ?_
  intro reply
  cases reply with
  | ok _ => exact Program.guarded_pure _
  | error errno => exact Program.guarded_pure _

/-- A close that finds the handle closed makes no call, and any other is no write. -/
theorem guarded_close (handle : Handle) : handle.close.Guarded := by
  unfold close
  split
  · refine (guarded_call (Program.guarded_perform .close rfl)).bind ?_
    intro result
    cases result with
    | ok _ => exact Program.guarded_pure _
    | error err => exact Program.guarded_pure _
  · exact Program.guarded_pure _

theorem guarded_lock : lock.run.Guarded :=
  guarded_call (Program.guarded_perform .lock rfl)

theorem guarded_unlock : unlock.run.Guarded :=
  guarded_call (Program.guarded_perform .unlock rfl)

/-- A request is no write unless its tag says so. -/
theorem guarded_exchange {tag : Nat} (value : Option Block) (word : tag < UInt32.size)
    (reads : ∀ region, tag ≠ Mailbox.tagForWriting region) : (exchange tag value).run.Guarded := by
  have unwritten : (Action.transfer (.request (.ofNat tag) value)).event?.bind
      Event.written? = none := by
    have tagged : (UInt32.ofNat tag).toNat = tag := UInt32.toNat_ofNat_of_lt' word
    simp only [Action.event?, Option.bind_some, Request.ofBuffer, Mailbox.Buffer.tag_request, tagged]
    split
    · rfl
    · split
      · next region found =>
        have same := List.find?_some (p := fun region => tag == Mailbox.tagForWriting region) found
        exact absurd (beq_iff_eq.1 same) (reads region)
      · rfl
  refine (guarded_call (Program.guarded_perform _ unwritten)).run_bind ?_
  intro answer
  split
  · exact Program.guarded_pure _
  · exact Program.guarded_pure _

/-- The tags for reading are words, and none of them is one for writing. -/
theorem guarded_read (region : Region) : (read region).run.Guarded := by
  refine guarded_exchange none ?_ ?_
  · cases region <;> decide
  · intro other
    cases region <;> cases other <;> decide

/-- A request from outside, unless it writes. -/
theorem guarded_send {tag : Int} (value : Option Bytes)
    (reads : ∀ region, tag ≠ Mailbox.tagForWriting region) : (send tag value).run.Guarded := by
  unfold send
  cases fine : checked tag value with
  | error err => exact Program.guarded_pure _
  | ok sent =>
    obtain ⟨word, rfl⟩ := Mailbox.checkedTag_eq_ok_iff.1 (checkedTag_of_checked fine)
    refine (guarded_exchange sent.2 ?_ ?_).run_adapt _
    · simp only [Mailbox.isWord, Bool.and_eq_true, decide_eq_true_eq] at word
      have bound : UInt32.size = 0x100000000 := rfl
      omega
    · intro region same
      exact reads region (congrArg Int.ofNat same)

/-- The lock itself is no matter here: whether a region is blank is seen from the read in front of
the write, and not from who holds the lock. -/
theorem guarded_locked {refused : CallError → ε} {body : Attempt ε α} (h : body.run.Guarded) :
    (locked refused body).run.Guarded :=
  (guarded_lock.run_adapt refused).run_bind fun _ =>
    h.run_ensuring (guarded_unlock.run_adapt refused)

theorem guarded_closing {refused : CallError → ε} {handle : Handle} {body : Attempt ε α}
    (h : body.run.Guarded) : (closing refused handle body).run.Guarded :=
  h.run_ensuring ((guarded_close handle).bind fun _ => Program.guarded_pure _)

theorem guarded_visit (region : Region) (path : String) : (visit region path).run.Guarded :=
  (guarded_openAt path).run_bind fun _ => guarded_closing (guarded_read region)

theorem guarded_offersPrivateKey (path : String) : (offersPrivateKey path).Guarded := by
  refine (guarded_visit .privateKey path).bind ?_
  intro seen
  cases seen with
  | ok _ => exact Program.guarded_pure _
  | error err => exact (Program.guarded_log _ _).bind fun _ => Program.guarded_pure _

end Handle

/-! ## Media -/

namespace Medium

open Program (Guarded)

theorem guarded_claim (region : Region) (path : String) : (claim region path).run.Guarded := by
  refine (Program.guarded_perform (.claim region) rfl).run_lift.run_bind ?_
  intro granted
  split
  · exact Program.guarded_pure _
  · exact Program.guarded_pure _

theorem guarded_close (medium : Medium) : medium.close.Guarded := by
  cases medium with
  | otp _ _ id => exact Program.guarded_perform (.release id) rfl
  | override _ => exact Program.guarded_pure _

theorem guarded_inspectRegion (region : Region) (path : String) :
    (inspectRegion region path).run.Guarded := by
  refine (Handle.guarded_visit region path).run_outcome.run_bind ?_
  intro seen
  have logged : ∀ (level : Level) (text : String) (state : RegionState),
      (do Program.log level text; return state : Attempt Error RegionState).run.Guarded :=
    fun level text _ => (Program.guarded_log level text).run_lift.run_bind fun _ =>
      Program.guarded_pure _
  cases seen with
  | ok value => exact logged _ _ _
  | error err =>
    show (ite _ _ _ : Attempt Error RegionState).run.Guarded
    split
    · exact logged _ _ _
    · cases err with
      | system errno path => exact Program.guarded_pure _
      | rejected tag code => exact logged _ _ _

theorem guarded_inspect (medium : Medium) : medium.inspect.run.Guarded := by
  cases medium with
  | otp region path _ => exact guarded_inspectRegion region path
  | override _ => exact Program.guarded_pure _

theorem guarded_fetch (medium : Medium) : medium.fetch.run.Guarded := by
  cases medium with
  | otp region path _ =>
    exact ((Handle.guarded_visit region path).run_adapt _).run_bind fun _ => Program.guarded_pure _
  | override _ => exact Program.guarded_pure _

/-- A write right behind a read that found nothing. -/
theorem writesBlank_behind {region : Region} {value : Block} {r w : Moment}
    {result : Except CallError Unit} (reads : r.Reads region (.ok Block.zero))
    (writes : w.Makes (.request (.write region value)) result)
    (next : w.machine.device = r.after.device) (honest : r.machine.device.Honest) :
    w.WritesBlank := by
  intro other taken wrote
  cases (Moment.written?_eq_some.1 wrote).symm.trans writes.1
  have still : w.rows = r.rows := by
    rw [Moment.rows, next, Moment.rows_still (by simp [reads.1]) reads.written?]
  rw [still]
  exact reads.rows_eq honest

/-- The one write of a burning stands right behind a read that gave zeros. -/
theorem Burnt.writesBlank {region : Region} {value : Block} {result : Except Error Unit}
    {calls : List Moment} {d d' : Device} (h : Burnt region value result calls)
    (linked : Linked d calls d') (honest : d.Honest) : ∀ q ∈ calls, q.WritesBlank := by
  have unwritten : ∀ {q : Moment} {seen : Except CallError Block}, q.Reads region seen →
      q.WritesBlank := fun reads => Moment.writesBlank_of_written? reads.written?
  cases h with
  | refused reads | unread reads | occupied reads _ =>
    exact List.forall_mem_singleton.2 (unwritten reads)
  | unwritten reads fails =>
    obtain ⟨rfl, next, -⟩ := linked
    exact List.forall_mem_cons.2 ⟨unwritten reads, List.forall_mem_singleton.2
      (writesBlank_behind reads fails next honest)⟩
  | unchecked reads writes rereads | differing reads writes rereads _
  | burnt reads writes rereads =>
    obtain ⟨rfl, next, -⟩ := linked
    exact List.forall_mem_cons.2 ⟨unwritten reads, List.forall_mem_cons.2
      ⟨writesBlank_behind reads writes next honest,
        List.forall_mem_singleton.2 (unwritten rereads)⟩⟩

/-- The one place where a library function writes. -/
theorem guarded_burn (region : Region) (value : Block) : (burn region value).run.Guarded :=
  fun m honest => (burnt region value m).writesBlank (Program.linked_calls _ m) honest

/-- Around the burning there is nothing but the brackets of file and lock. -/
theorem guarded_programRegion (region : Region) (path : String) (value : Block) :
    (programRegion region path value).run.Guarded := by
  refine ((Handle.guarded_openAt path).run_adapt _).run_bind ?_
  intro handle
  refine (Handle.guarded_closing (Handle.guarded_locked (guarded_burn region value))).run_bind ?_
  intro _
  exact (Program.guarded_log _ _).run_lift

/-- An override takes no value, and a value of another size is refused in front of the device. -/
theorem guarded_program (medium : Medium) (bytes : Bytes) : (medium.program bytes).run.Guarded := by
  cases medium with
  | otp region path _ =>
    cases size : Block.ofBytes? bytes with
    | some value =>
      simp only [program, size]
      exact guarded_programRegion region path value
    | none =>
      simp only [program, size]
      exact Program.guarded_pure _
  | override _ => exact (Program.guarded_log _ _).run_lift

theorem guarded_ofSettings (settings : Settings) : (ofSettings settings).run.Guarded := by
  unfold ofSettings
  split
  · exact Program.guarded_pure _
  · exact guarded_claim _ _

end Medium

/-! ## Keepers -/

theorem Settings.guarded_load (env : Environment) (customerRegion : Option Bool)
    (salt : Option String) : (load env customerRegion salt).Guarded := by
  unfold load
  split
  · exact (Program.guarded_log _ _).bind fun _ => Program.guarded_pure _
  · exact Program.guarded_pure _

namespace Keeper

open Program (Guarded)

theorem guarded_make (settings : Settings) (medium : Option Medium) :
    (make settings medium).run.Guarded := by
  have logged : ∀ medium : Medium, (do
      liftM (Program.log .debug s!"Secret store using {medium.text}")
      return ⟨settings, medium⟩ : Attempt Error Keeper).run.Guarded := fun medium =>
    (Program.guarded_log _ _).run_lift.run_bind fun _ => Program.guarded_pure _
  cases medium with
  | some medium => exact logged medium
  | none => exact (Medium.guarded_ofSettings settings).run_bind logged

theorem guarded_close (keeper : Keeper) : keeper.close.Guarded := Medium.guarded_close _

theorem guarded_state (keeper : Keeper) : keeper.state.run.Guarded := Medium.guarded_inspect _

theorem guarded_isProvided (keeper : Keeper) : keeper.isProvided.run.Guarded :=
  keeper.guarded_state.run_bind fun _ => Program.guarded_pure _

/-- The draw is programmed, and what came of that only decides the answer. -/
theorem guarded_provideFresh (keeper : Keeper) : keeper.provideFresh.run.Guarded := by
  refine (Program.guarded_perform .draw rfl).run_lift.run_bind ?_
  intro value
  refine (Medium.guarded_program _ _).run_outcome.run_bind ?_
  intro result
  rcases result with err | _
  · cases err with
    | alreadyProgrammed region =>
      exact (Program.guarded_log _ _).run_lift.run_bind fun _ => Program.guarded_pure _
    | _ => exact Program.guarded_pure _
  · exact (Program.guarded_log _ _).run_lift.run_bind fun _ => Program.guarded_pure _

/-- A region that looks blank is programmed; every other state ends the attempt. -/
theorem guarded_provide (keeper : Keeper) : keeper.provide.run.Guarded := by
  refine (keeper.guarded_state.run_adapt _).run_bind ?_
  intro state
  cases state with
  | blank => exact keeper.guarded_provideFresh
  | programmed => exact (Program.guarded_log _ _).run_lift.run_bind fun _ => Program.guarded_pure _
  | unavailable => exact Program.guarded_pure _

theorem guarded_secret (keeper : Keeper) : keeper.secret.run.Guarded := by
  refine keeper.guarded_state.run_bind ?_
  intro state
  cases state with
  | blank => exact Program.guarded_pure _
  | unavailable => exact Program.guarded_pure _
  | programmed =>
    refine (Medium.guarded_fetch _).run_bind ?_
    intro secret
    split
    · exact Program.guarded_pure _
    · exact Program.guarded_pure _

theorem guarded_key (keeper : Keeper) (label : Label) (length : Int) :
    (keeper.key label length).run.Guarded := by
  refine keeper.guarded_secret.run_bind ?_
  intro secret
  refine (Program.guarded_ofExcept _).run_bind ?_
  intro key
  exact (Program.guarded_log _ _).run_lift.run_bind fun _ => Program.guarded_pure _

theorem guarded_hexKey (keeper : Keeper) (label : Label) (length : Int) :
    (keeper.hexKey label length).run.Guarded :=
  keeper.guarded_secret.run_bind fun _ => Program.guarded_ofExcept _

theorem guarded_uuid (keeper : Keeper) (label : Label) : (keeper.uuid label).run.Guarded :=
  keeper.guarded_secret.run_bind fun _ => Program.guarded_pure _

/-- A medium that is made for one look is closed behind it, which is no write. -/
theorem guarded_stateOf (keeper : Keeper) (region : Region) :
    (keeper.stateOf region).run.Guarded := by
  unfold stateOf
  split
  · exact Medium.guarded_inspect _
  · refine (Medium.guarded_claim _ _).run_bind ?_
    intro medium
    exact (Medium.guarded_inspect medium).run_ensuring (Medium.guarded_close medium).run_lift

theorem guarded_report (keeper : Keeper) : keeper.report.run.Guarded := by
  refine (keeper.guarded_stateOf .privateKey).run_bind ?_
  intro privateKey
  refine (keeper.guarded_stateOf .customer).run_bind ?_
  intro customer
  exact (Program.guarded_perform (.fileExists _) rfl).run_lift.run_bind fun _ =>
    Program.guarded_pure _

end Keeper

/-! ## Steps of a session -/

/-- Whether a step hands the firmware a request of the caller's own making. -/
def Step.IsRaw : Step → Prop
  | .operate _ (.exchange _ _) => True
  | _ => False

/-- Whether a step hands the firmware a request to write of the caller's own making. -/
def Step.WritesRaw : Step → Prop
  | .operate _ (.exchange tag _) => ∃ region, tag = Mailbox.tagForWriting region
  | _ => False

theorem Step.WritesRaw.isRaw {step : Step} (h : step.WritesRaw) : step.IsRaw := by
  unfold WritesRaw at h
  split at h
  · exact trivial
  · exact absurd h not_false

namespace Item

open Program (Guarded)

theorem guarded_onMedium (name : String) (medium : Medium) (operation : Operation) :
    (onMedium name medium operation).run.Guarded := by
  cases operation with
  | close => exact (Medium.guarded_close medium).run_lift.run_bind fun _ => Program.guarded_pure _
  | inspect => exact (Medium.guarded_inspect medium).run_map _
  | program value =>
    exact (Medium.guarded_program medium value).run_bind fun _ => Program.guarded_pure _
  | fetch => exact (Medium.guarded_fetch medium).run_map _
  | _ => exact Program.guarded_pure _

theorem guarded_onKeeper (name : String) (keeper : Keeper) (operation : Operation) :
    (onKeeper name keeper operation).run.Guarded := by
  cases operation with
  | close => exact keeper.guarded_close.run_lift.run_bind fun _ => Program.guarded_pure _
  | provide => exact keeper.guarded_provide.run_map _
  | state => exact keeper.guarded_state.run_map _
  | isProvided => exact keeper.guarded_isProvided.run_map _
  | secret => exact keeper.guarded_secret.run_map _
  | key label length => exact (keeper.guarded_key label length).run_map _
  | hexKey label length => exact (keeper.guarded_hexKey label length).run_map _
  | uuid label => exact (keeper.guarded_uuid label).run_map _
  | report => exact keeper.guarded_report.run_map _
  | _ => exact Program.guarded_pure _

/-- On a handle a request can write what it likes, so that this one exception is made. -/
theorem guarded_onHandle (closedCalls : ClosedCalls) (name : String) (handle : Handle)
    {operation : Operation} (own : ¬(Step.operate name operation).WritesRaw) :
    (onHandle closedCalls name handle operation).Guarded := by
  by_cases closing : operation = .close
  · subst closing
    exact (Handle.guarded_close handle).bind fun _ => Program.guarded_pure _
  · obtain same | same := onHandle_eq closedCalls name handle closing <;> rw [same]
    · exact Program.guarded_pure _
    · refine Guarded.bind ?_ fun _ => Program.guarded_pure _
      cases operation with
      | exchange tag value =>
        exact (Handle.guarded_send value fun region same => own ⟨region, same⟩).run_map _
      | lock => exact (Handle.guarded_lock.run_adapt _).run_bind fun _ => Program.guarded_pure _
      | unlock =>
        exact (Handle.guarded_unlock.run_adapt _).run_bind fun _ => Program.guarded_pure _
      | _ => exact Program.guarded_pure _

end Item

namespace Session

open Program (Guarded)

theorem guarded_make (s : Session) (name : String) {body : Attempt Error (Item × Answer)}
    (h : body.run.Guarded) : (s.make name body).Guarded := by
  refine h.bind ?_
  intro result
  rcases result with err | ⟨item, answer⟩
  · exact Program.guarded_pure _
  · exact Program.guarded_pure _

theorem guarded_settingsOrEnvironment (s : Session) (name : Option String) :
    (s.settingsOrEnvironment name).run.Guarded := by
  cases name with
  | some name => exact Program.guarded_pure _
  | none => exact (Settings.guarded_load _ _ _).run_lift

/-- To forget a name gives a claim back at most. -/
theorem guarded_drop (s : Session) (name : String) : (s.drop name).Guarded := by
  unfold drop
  dsimp only
  split
  · split
    · exact (Program.guarded_perform (.release _) rfl).bind fun _ => Program.guarded_pure _
    · exact Program.guarded_pure _
  · exact Program.guarded_pure _

theorem guarded_operate (s : Session) (name : String) {operation : Operation}
    (own : ¬(Step.operate name operation).WritesRaw) : (s.operate name operation).Guarded := by
  unfold operate
  split
  · exact (Item.guarded_onMedium _ _ _).bind fun _ => Program.guarded_pure _
  · exact (Item.guarded_onKeeper _ _ _).bind fun _ => Program.guarded_pure _
  · exact (Item.guarded_onHandle _ _ _ own).bind fun _ => Program.guarded_pure _
  · exact Program.guarded_pure _
  · exact Program.guarded_pure _

/-- One case for each step; only the raw request to write is left out. -/
theorem guarded_perform (s : Session) {step : Step} (own : ¬step.WritesRaw) :
    (s.perform step).Guarded := by
  cases step with
  | alterDevice _ => exact Program.guarded_pure _
  | makeSettings name fields =>
    exact s.guarded_make name ((Program.guarded_ofExcept _).run_bind fun _ =>
      Program.guarded_pure _)
  | loadSettings name customerRegion salt =>
    exact s.guarded_make name ((Settings.guarded_load _ _ _).run_lift.run_bind fun _ =>
      Program.guarded_pure _)
  | claimRegion name region path =>
    exact s.guarded_make name ((Medium.guarded_claim region path).run_bind fun _ =>
      Program.guarded_pure _)
  | makeOverride name seed => exact s.guarded_make name (Program.guarded_pure _)
  | selectMedium name settings =>
    refine s.guarded_make name ((Program.guarded_ofExcept _).run_bind ?_)
    intro settings
    exact (Medium.guarded_ofSettings settings).run_bind fun _ => Program.guarded_pure _
  | makeKeeper name settings medium =>
    refine s.guarded_make name ((s.guarded_settingsOrEnvironment settings).run_bind ?_)
    intro _
    cases medium with
    | some medium =>
      refine ((Program.guarded_ofExcept _).run_map _).run_bind ?_
      intro medium
      exact (Keeper.guarded_make _ medium).run_bind fun _ => Program.guarded_pure _
    | none =>
      refine (Program.guarded_return none).run_bind ?_
      intro medium
      exact (Keeper.guarded_make _ medium).run_bind fun _ => Program.guarded_pure _
  | openHandle name path =>
    exact s.guarded_make name (((Handle.guarded_openAt path).run_adapt _).run_bind fun _ =>
      Program.guarded_pure _)
  -- Here alone it matters that the step is none with a write of the caller's own making.
  | operate name operation => exact s.guarded_operate name own
  | drop name => exact (s.guarded_drop name).bind fun _ => Program.guarded_pure _
  | mailboxPresent path =>
    exact (Program.guarded_perform (.fileExists path) rfl).bind fun _ => Program.guarded_pure _
  | offersPrivateKey path =>
    exact (Handle.guarded_offersPrivateKey path).bind fun _ => Program.guarded_pure _

end Session

/-! ## Command lines -/

namespace CommandLine

open Program (Guarded)

variable {α : Type}

/-- A command closes its keeper when it is done with it. -/
theorem guarded_withKeeper (settings : Settings) {body : Keeper → Attempt Error α}
    (h : ∀ keeper, (body keeper).run.Guarded) : (withKeeper settings body).run.Guarded :=
  (Keeper.guarded_make settings none).run_bind fun keeper =>
    (h keeper).run_ensuring keeper.guarded_close.run_lift

theorem guarded_printing (settings : Settings) {body : Keeper → Attempt Error String}
    (h : ∀ keeper, (body keeper).run.Guarded) : (printing settings body).Guarded := by
  refine (guarded_withKeeper settings h).bind ?_
  intro result
  cases result with
  | ok text => exact Program.guarded_pure _
  | error err => exact Program.guarded_pure _

theorem guarded_execute (settings : Settings) (command : Command) :
    (execute settings command).Guarded := by
  cases command with
  | version => exact Program.guarded_pure _
  | status json =>
    refine (guarded_withKeeper settings fun keeper => ?_).bind fun result => ?_
    · exact keeper.guarded_state.run_bind fun _ => keeper.guarded_report.run_bind fun _ =>
        Program.guarded_pure _
    · rcases result with err | ⟨place, state, report⟩
      · exact Program.guarded_pure _
      · show (ite _ _ _ : Program Outcome).Guarded
        split
        · exact Program.guarded_pure _
        · exact Program.guarded_pure _
  | init =>
    refine (guarded_withKeeper settings fun keeper => ?_).bind fun result => ?_
    · exact keeper.guarded_provide.run_bind fun _ => keeper.guarded_state.run_bind fun _ =>
        keeper.guarded_report.run_bind fun _ => Program.guarded_pure _
    · rcases result with err | ⟨outcome, state, report⟩
      · exact Program.guarded_pure _
      · exact Program.guarded_pure _
  | check =>
    refine (guarded_withKeeper settings Keeper.guarded_isProvided).bind ?_
    intro result
    rcases result with err | _ | _
    · exact Program.guarded_pure _
    · exact Program.guarded_pure _
    · exact Program.guarded_pure _
  | hex size info => exact guarded_printing settings fun keeper => keeper.guarded_hexKey _ _
  | uuid info => exact guarded_printing settings fun keeper => (keeper.guarded_uuid _).run_map _

/-- Every command line is guarded, whether its arguments can be read or not. -/
theorem guarded_run (args : List String) (env : Environment) : (run args env).Guarded := by
  unfold run
  split
  · exact Program.guarded_pure _
  · refine (Settings.guarded_load _ _ _).bind ?_
    intro settings
    split
    · exact Program.guarded_pure _
    · exact guarded_execute settings _

end CommandLine

end DeviceKeys
