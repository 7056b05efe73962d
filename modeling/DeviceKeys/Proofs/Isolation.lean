import DeviceKeys.Proofs.Agreement
import DeviceKeys.Proofs.KeyStability
import DeviceKeys.Proofs.Observation

/-!
# Regions that know nothing of each other

A medium of a region, and a keeper of such a medium, ask nothing about the other region. So the
other region has no influence on what they do (`Program.Isolated.same`), and they have none on it
(`Program.Isolated.spared`): neither its rows nor its keys are changed by what is done to the first.
Both follow from the tags of the requests alone, so each operation is looked at for its questions
and not for what it does. The report, which is about both regions, is left out of this, but it only
reads (`regions_isolated`).
-/

set_option autoImplicit false

namespace DeviceKeys

/-! ## Tags -/

namespace Mailbox.Buffer

/-- Whether a request has one of the two tags of a region. -/
def IsFor (buffer : Buffer) (region : Region) : Prop :=
  buffer.tag.toNat = tagForReading region ∨ buffer.tag.toNat = tagForWriting region

variable {buffer : Buffer} {region other : Region}

/-- No two regions have a tag in common. -/
theorem IsFor.unique (h : buffer.IsFor region) (h' : buffer.IsFor other) : other = region := by
  unfold IsFor at h h'
  cases region with
  | privateKey =>
    cases other with
    | privateKey => rfl
    | customer =>
      simp only [tagForReading, tagForWriting] at h h'
      omega
  | customer =>
    cases other with
    | customer => rfl
    | privateKey =>
      simp only [tagForReading, tagForWriting] at h h'
      omega

theorem isFor_of_region? (h : (Request.ofBuffer buffer).region? = some region) :
    buffer.IsFor region := by
  unfold Request.ofBuffer at h
  split at h
  · next found =>
    cases h
    exact .inl (eq_of_beq (List.find?_some found :))
  · split at h
    · next found =>
      cases h
      exact .inr (eq_of_beq (List.find?_some found :))
    · cases h

end Mailbox.Buffer

namespace Action

variable {region : Region} {path : String} {action : Action}

theorem Looks.within (h : action.Looks region path) : action.Within region := by
  cases h with
  | reads => exact congrArg Request.region? (Request.ofBuffer_read region none)
  | _ => trivial

theorem Programs.within (h : action.Programs region path) : action.Within region := by
  cases h with
  | looks h => exact h.within
  | writes value => exact congrArg Request.region? (Request.ofBuffer_write region value)
  | _ => trivial

end Action

/-! ## Isolated programs -/

namespace Program

variable {α : Type} {region : Region} {program : Program α}

/-- What a program is that has to do with one region only. -/
structure Isolated (region : Region) (program : Program α) : Prop where
  /-- Machines that differ in nothing but the other region see the same, and are left so. -/
  same : ∀ {m m' : Machine}, m.Agrees region m' →
    (program.run m').1 = (program.run m).1 ∧ program.events m' = program.events m ∧
      (program.run m).2.Agrees region (program.run m').2
  /-- No request has a tag of the other region. -/
  tags : ∀ (m : Machine), ∀ q ∈ program.moments m, ∀ buffer, q.action = .transfer buffer →
    ∀ other, other ≠ region → ¬buffer.IsFor other
  /-- The other region is not written. -/
  unwritten : ∀ (m : Machine), ∀ q ∈ program.calls m, ∀ other, other ≠ region →
    ∀ value, q.written? ≠ some (other, value)
  /-- It takes in what other processes program at the locks, and nothing else. -/
  spared : ∀ (m : Machine) (other : Region), other ≠ region →
    (program.run m).2.device.rows.get other =
      (m.device.rows.burnAll ((program.calls m).flatMap Moment.foreign)).get other

namespace Asks

theorem region_of_transfer (h : program.Asks (Action.Within region)) (m : Machine) :
    ∀ q ∈ program.moments m, ∀ buffer, q.action = .transfer buffer →
      (Request.ofBuffer buffer).region? = some region := by
  intro q mem buffer asked
  have within := h.forall_moments m q mem
  rw [asked] at within
  exact within

theorem unwritten (h : program.Asks (Action.Within region)) (m : Machine) :
    ∀ q ∈ program.calls m, ∀ other, other ≠ region →
      ∀ value, q.written? ≠ some (other, value) := by
  intro q mem other apart value writes
  have happened := Moment.written?_eq_some.1 writes
  obtain ⟨machine, action⟩ := q
  cases action with
  | transfer buffer =>
    have within := h.region_of_transfer m _ (List.mem_filter.1 mem).1 buffer rfl
    have asked : Request.ofBuffer buffer = .write other value := by
      simpa [Moment.event?, Action.event?] using happened
    rw [asked] at within
    exact apart (Option.some.inj within)
  | _ => cases happened

/-- To be isolated it is enough to ask about no other region. -/
theorem isolated (h : program.Asks (Action.Within region)) : program.Isolated region := by
  constructor
  · intro m m' agree
    have together := h.lockstep (Machine.Agrees region) Machine.Agrees.answer agree
    refine ⟨together.1, ?_, together.2.2⟩
    rw [events_eq_asked, events_eq_asked, together.2.1]
  · intro m q mem buffer asked other apart isFor
    have own := Mailbox.Buffer.isFor_of_region? (h.region_of_transfer m q mem buffer asked)
    exact apart (own.unique isFor)
  · exact h.unwritten
  · intro m other apart
    refine (program.linked_calls m).get_rows_of_unwritten ?_
    intro q mem
    exact h.unwritten m q mem other apart

end Asks

end Program

/-! ## Operations -/

namespace Item

open Program (asks_perform)

variable (name : String) (region : Region) (path : String) (claim : ClaimId)

theorem isolated_onMedium (operation : Operation) :
    (onMedium name (.otp region path claim) operation).run.Isolated region := by
  refine (asks_onMedium name ?_ ?_ ?_ ?_).isolated
  · exact (Medium.asks_inspectRegion region path).mono fun _ => Action.Looks.within
  · exact (Medium.asks_fetch region path claim).mono fun _ => Action.Looks.within
  · intro bytes
    exact (Medium.asks_program region path claim bytes).mono fun _ => Action.Programs.within
  · intro _
    exact asks_perform trivial

theorem isolated_onKeeper (settings : Settings) {operation : Operation}
    (silent : operation ≠ .report) :
    (onKeeper name ⟨settings, .otp region path claim⟩ operation).run.Isolated region := by
  refine (asks_onKeeper name ?_ ?_ ?_ (fun _ => trivial) ?_ silent).isolated
  · exact (Medium.asks_inspectRegion region path).mono fun _ => Action.Looks.within
  · exact (Medium.asks_fetch region path claim).mono fun _ => Action.Looks.within
  · exact (Keeper.asks_provide settings region path claim).mono fun _ => Action.Programs.within
  · intro _
    exact asks_perform trivial

end Item

/-! ## Keys of the other region -/

namespace Rows

/-- What is burned into other regions does not matter to a region. -/
theorem get_burnAll_of_notMem {rows : Rows} {region : Region} {values : List (Region × Block)}
    (h : ∀ value, (region, value) ∉ values) :
    (rows.burnAll values).get region = rows.get region := by
  induction values generalizing rows with
  | nil => rfl
  | cons value rest ih =>
    obtain ⟨written, block⟩ := value
    have apart : region ≠ written := by
      rintro rfl
      exact h block List.mem_cons_self
    rw [burnAll, List.foldl_cons]
    exact (ih fun value mem => h value (List.mem_cons_of_mem _ mem)).trans (get_burn_ne block apart)

end Rows

namespace Keeper

open Program (Asks asks_pure)

theorem asks_derive {allowed : Action → Prop} {keeper : Keeper}
    (secret : keeper.secret.run.Asks allowed) (logs : ∀ record, allowed (.log record))
    (label : Label) (form : KeyForm) : (keeper.derive label form).run.Asks allowed := by
  cases form with
  | bytes length => exact (asks_key secret logs label length).run_map _
  | hex length => exact (secret.run_bind fun _ => asks_pure _).run_map _
  | uuid => exact (secret.run_bind fun _ => asks_pure _).run_map _

/-- A key depends on the device alone, and of the device on nothing but the keeper's region. -/
theorem derive_congr {keeper : Keeper} {region : Region} (own : keeper.medium.region? = some region)
    {m m' : Machine} (agree : m.device.Agrees region m'.device) (label : Label) (form : KeyForm) :
    ((keeper.derive label form).run.run m').1 = ((keeper.derive label form).run.run m).1 := by
  obtain ⟨settings, medium⟩ := keeper
  cases medium with
  | override seed => cases own
  | otp region path claim =>
    cases own
    have looks : (derive ⟨settings, .otp region path claim⟩ label form).run.Asks
        (Action.Looks region path) :=
      asks_derive (asks_secret (Medium.asks_inspectRegion region path)
        (Medium.asks_fetch region path claim)) .logs label form
    -- Between the two machines stands the first with the device of the second.
    have agree : m.Agrees region { m with device := m'.device } := ⟨agree, rfl⟩
    rw [← ((looks.mono fun _ => Action.Looks.within).isolated.same agree).1]
    exact (looks.looks_congr (m := { m with device := m'.device }) (Eq.refl m'.device)).1

end Keeper

/-- A key as it is after a run of a program, which other processes may have interrupted. -/
structure KeysKept (region : Region) (m m' : Machine) (foreign : List (Region × Block)) : Prop where
  /-- Every key, or error, is the one there would be if the other processes had been at work alone
  and the same faults were used up. -/
  others : ∀ (keeper : Keeper), keeper.medium.region? = some region →
    ∀ (label : Label) (form : KeyForm),
      let d := { m.device with rows := m.device.rows.burnAll foreign, faults := m'.device.faults }
      ((keeper.derive label form).run.run m').1 =
        ((keeper.derive label form).run.run { m with device := d }).1
  /-- If they did not program the region, a device that forges no value gives the same key
  as before whenever it gives one. -/
  given : (∀ value, (region, value) ∉ foreign) → m.device.Honest →
    ∀ (keeper : Keeper), keeper.medium.region? = some region →
    ∀ (label : Label) (form : KeyForm) (answer answer' : Answer),
      ((keeper.derive label form).run.run m).1 = .ok answer →
      ((keeper.derive label form).run.run m').1 = .ok answer' → answer' = answer
  /-- Any device gives the same as before, errors included, if no fault is used up that could meet a
  call of the region. -/
  same : (∀ value, (region, value) ∉ foreign) →
    m'.device.faults.filter (Fault.concerns region) =
      m.device.faults.filter (Fault.concerns region) →
    ∀ (keeper : Keeper), keeper.medium.region? = some region → ∀ (label : Label) (form : KeyForm),
      ((keeper.derive label form).run.run m').1 = ((keeper.derive label form).run.run m).1

theorem Program.Isolated.keysKept {α : Type} {region other : Region} {program : Program α}
    (h : program.Isolated region) (apart : other ≠ region) (m : Machine) :
    KeysKept other m (program.run m).2 ((program.calls m).flatMap Moment.foreign) := by
  have linked := program.linked_calls m
  have spared := h.spared m other apart
  constructor
  · intro keeper own label form d
    have agree : d.Agrees other (program.run m).2.device :=
      Device.agrees_of_fixture linked.fixture spared rfl
    exact Keeper.derive_congr own agree label form
  · intro alone honest keeper own label form answer answer' before after
    have asked : KeyRequest.of? keeper label form =
        some ⟨other, keeper.settings.salt, label.toBytes, form⟩ := by
      rw [KeyRequest.of?, own]
      rfl
    have old := (Keeper.derive_eq_ok honest asked before).1
    have new := (Keeper.derive_eq_ok (linked.honest honest).2 asked after).1
    rw [spared, Rows.get_burnAll_of_notMem alone, old] at new
    exact (Except.ok.inj new).symm
  · intro alone faults keeper own label form
    rw [Rows.get_burnAll_of_notMem alone] at spared
    exact Keeper.derive_congr own (Device.agrees_of_fixture linked.fixture spared faults) label form

/-! ## Isolation -/

/-- That the regions of a device know nothing of each other. -/
structure RegionsIsolated : Prop where
  /-- An operation of a medium has to do with its own region only. -/
  onMedium : ∀ (name : String) (region : Region) (path : String) (claim : ClaimId)
    (operation : Operation),
    (Item.onMedium name (.otp region path claim) operation).run.Isolated region
  /-- So has an operation of a keeper, except for the report. -/
  onKeeper : ∀ (name : String) (settings : Settings) (region : Region) (path : String)
    (claim : ClaimId) (operation : Operation), operation ≠ .report →
    (Item.onKeeper name ⟨settings, .otp region path claim⟩ operation).run.Isolated region
  /-- A report does nothing to a region but read it. -/
  report : ∀ (keeper : Keeper) (m : Machine),
    (∀ event ∈ keeper.report.run.events m, event.IsLook) ∧
      (keeper.report.run.run m).2.device.rows = m.device.rows
  /-- Providing a region with a secret changes no key of the other. -/
  provide : ∀ (settings : Settings) (region other : Region) (path : String) (claim : ClaimId)
    (m : Machine), other ≠ region →
    let provide := (Keeper.provide ⟨settings, .otp region path claim⟩).run
    KeysKept other m (provide.run m).2 ((provide.calls m).flatMap Moment.foreign)
  /-- Nor does programming it with a secret of the caller's. -/
  program : ∀ (bytes : Bytes) (region other : Region) (path : String) (claim : ClaimId)
    (m : Machine), other ≠ region →
    let program := ((Medium.otp region path claim).program bytes).run
    KeysKept other m (program.run m).2 ((program.calls m).flatMap Moment.foreign)

/-- What is done to one region sees and changes that region alone. -/
theorem regions_isolated : RegionsIsolated where
  onMedium := Item.isolated_onMedium
  onKeeper name settings region path claim _ silent :=
    Item.isolated_onKeeper name region path claim settings silent
  report keeper m := ⟨keeper.asks_report.looks_of_events m, keeper.asks_report.rows_run m⟩
  provide := by
    intro settings region other path claim m apart
    have within := (Keeper.asks_provide settings region path claim).mono fun _ =>
      Action.Programs.within
    exact within.isolated.keysKept apart m
  program := by
    intro bytes region other path claim m apart
    have within := (Medium.asks_program region path claim bytes).mono fun _ =>
      Action.Programs.within
    exact within.isolated.keysKept apart m

end DeviceKeys
