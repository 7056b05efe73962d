import DeviceKeys.Proofs.Contract
import DeviceKeys.Proofs.Honesty

/-!
# Twin machines

Two machines are twins if they differ in nothing but what their rows hold, and if a region that is
blank on one is blank on the other. A discreet program cannot tell twins apart: on both it makes the
same calls and logs the same lines, its results are alike in a given sense, and it leaves twins
behind (`Program.Discreet`).

Calls are discreet, with one exception. A read tells whether the region is blank, which is the same
on both; if it is not, the value need not be the same, and if it is, then from that moment on the
rows of this region are known to be equal. So the relation carries the regions of which this is
known, and a program that writes what it has just seen blank can compare what it reads back.
-/

set_option autoImplicit false

namespace DeviceKeys

/-! ## Rows -/

/-- Rows of the same blank regions, and equal where they are known to be. -/
structure Rows.Twins (known : Region → Prop) (rows rows' : Rows) : Prop where
  blank : ∀ region, rows.get region = Block.zero ↔ rows'.get region = Block.zero
  equal : ∀ region, known region → rows'.get region = rows.get region

namespace Rows.Twins

variable {known : Region → Prop} {rows rows' : Rows}

/-- Blank regions are equal. -/
theorem learn {region : Region} (h : Twins known rows rows')
    (blank : rows.get region = Block.zero) :
    Twins (fun other => other = region ∨ known other) rows rows' := by
  refine ⟨h.blank, ?_⟩
  rintro other (rfl | known)
  · rw [blank, (h.blank other).1 blank]
  · exact h.equal other known

theorem forget {known' : Region → Prop} (h : Twins known rows rows')
    (fewer : ∀ region, known' region → known region) : Twins known' rows rows' :=
  ⟨h.blank, fun region mem => h.equal region (fewer region mem)⟩

/-- Rows that are given the same contents from outside are known to hold the same. -/
theorem set (h : Twins known rows rows') (region : Region) (value : Block) :
    Twins known (rows.set region value) (rows'.set region value) := by
  refine ⟨?_, ?_⟩ <;> intro other
  · by_cases same : other = region
    · subst same
      simp
    · simpa [same] using h.blank other
  · by_cases same : other = region
    · subst same
      simp
    · simpa [same] using h.equal other

theorem foldl_set (h : Twins known rows rows') (values : List (Region × Block)) :
    Twins known (values.foldl (fun rows (region, value) => rows.set region value) rows)
      (values.foldl (fun rows (region, value) => rows.set region value) rows') := by
  induction values generalizing rows rows' with
  | nil => exact h
  | cons value rest ih => exact ih (h.set value.1 value.2)

/-- The same value burned into both leaves them twins, whatever they held. -/
theorem burn (h : Twins known rows rows') (region : Region) (value : Block) :
    Twins known (rows.burn region value) (rows'.burn region value) := by
  refine ⟨?_, ?_⟩ <;> intro other
  · by_cases same : other = region
    · subst same
      rw [get_burn_same, get_burn_same]
      by_cases blank : rows.get other = Block.zero
      · rw [blank, (h.blank other).1 blank]
      · have filled := Block.burn_ne_zero value blank
        have filled' := Block.burn_ne_zero value (mt (h.blank other).2 blank)
        exact iff_of_false filled filled'
    · rw [get_burn_ne value same, get_burn_ne value same]
      exact h.blank other
  · intro mem
    by_cases same : other = region
    · subst same
      rw [get_burn_same, get_burn_same, h.equal other mem]
    · rw [get_burn_ne value same, get_burn_ne value same]
      exact h.equal other mem

theorem burnAll (h : Twins known rows rows') (values : List (Region × Block)) :
    Twins known (rows.burnAll values) (rows'.burnAll values) := by
  induction values generalizing rows rows' with
  | nil => exact h
  | cons value rest ih => exact ih (h.burn value.1 value.2)

end Rows.Twins

/-! ## Results -/

/-- The same error, or two values that are alike. -/
inductive Results {ε α β : Type} (R : α → β → Prop) : Except ε α → Except ε β → Prop
  | ok {a : α} {b : β} (h : R a b) : Results R (.ok a) (.ok b)
  | error (err : ε) : Results R (.error err) (.error err)

namespace Results

variable {ε ε' α β : Type} {R S : α → β → Prop}

theorem refl (r : Except ε α) : Results Eq r r := by
  cases r with
  | ok value => exact .ok rfl
  | error err => exact .error err

theorem mono {r : Except ε α} {r' : Except ε β} (h : Results R r r')
    (weaker : ∀ a b, R a b → S a b) : Results S r r' := by
  cases h with
  | ok h => exact .ok (weaker _ _ h)
  | error err => exact .error err

theorem mapError {r : Except ε α} {r' : Except ε β} (h : Results R r r') (f : ε → ε') :
    Results R (r.mapError f) (r'.mapError f) := by
  cases h with
  | ok h => exact .ok h
  | error err => exact .error _

end Results

/-! ## Devices -/

/-- Honest devices that differ in nothing but their rows. -/
structure Device.Twins (known : Region → Prop) (d d' : Device) : Prop where
  same : d' = { d with rows := d'.rows }
  rows : d.rows.Twins known d'.rows
  honest : d.Honest

namespace Device

variable {known : Region → Prop} {d d' : Device}

/-- A call that treats the rows of both alike. -/
structure TwinCall {α : Type} (known : Region → Prop) (R : α → α → Prop) (left right : α × Device) :
    Prop where
  reply : R left.1 right.1
  device : left.2.Twins known right.2

namespace Twins

/-- Both meet the same fault, if any. -/
theorem strike (h : d.Twins known d') (point : FaultPoint) (region : Option Region) :
    ∃ effect e e', d.strike point region = (effect, e) ∧ d'.strike point region = (effect, e') ∧
      e.Twins known e' := by
  obtain ⟨same, twins, honest⟩ := h
  generalize d'.rows = rows' at same twins
  subst same
  exact ⟨_, _, _, rfl, rfl, rfl, twins, honest.congr (d.effects_strike point region)⟩

theorem call (h : d.Twins known d') (point : FaultPoint) :
    TwinCall known Eq (d.call point) (d'.call point) := by
  obtain ⟨effect, e, e', left, right, twins⟩ := h.strike point none
  rw [Device.call, Device.call, left, right]
  rcases effect with _ | (errno | values | ⟨code, mask, reply⟩) <;> exact ⟨rfl, twins⟩

theorem hasFile (h : d.Twins known d') (path : String) : d'.hasFile path = d.hasFile path := by
  rw [h.same]
  rfl

theorem openAt (h : d.Twins known d') (path : String) :
    TwinCall known Eq (d.openAt path) (d'.openAt path) := by
  rw [Device.openAt, Device.openAt, h.hasFile path]
  split
  · exact h.call .openAt
  · exact ⟨rfl, h⟩

theorem burnAll (h : d.Twins known d') (values : List (Region × Block)) :
    Device.Twins known { d with rows := d.rows.burnAll values }
      { d' with rows := d'.rows.burnAll values } := by
  obtain ⟨same, twins, honest⟩ := h
  generalize d'.rows = rows' at same twins
  subst same
  exact ⟨rfl, twins.burnAll values, honest⟩

/-- A change from outside that is the same on both. -/
theorem alter {change : Change} (h : d.Twins known d') (honest : (d.alter change).Honest) :
    (d.alter change).Twins known (d'.alter change) := by
  obtain ⟨same, twins, -⟩ := h
  generalize d'.rows = rows' at same twins
  subst same
  exact ⟨rfl, twins.foldl_set change.rows, honest⟩

/-- What another process programs meanwhile, it programs on both. -/
theorem lock (h : d.Twins known d') : TwinCall known Eq d.lock d'.lock := by
  obtain ⟨effect, e, e', left, right, twins⟩ := h.strike .lock none
  rw [Device.lock, Device.lock, left, right]
  rcases effect with _ | (errno | values | ⟨code, mask, reply⟩)
  · exact ⟨rfl, twins⟩
  · exact ⟨rfl, twins⟩
  · exact ⟨rfl, twins.burnAll values⟩
  · exact ⟨rfl, twins⟩

end Twins

/-! ### Transfers -/

/-- Answers with one code, whose values are alike as far as they come from rows. -/
structure Answers (known : Region → Prop) (request : Request) (a b : Mailbox.Buffer) : Prop where
  code : b.code = a.code
  blank : request.region?.isSome → (a.value = Block.zero ↔ b.value = Block.zero)
  equal : ∀ region, request.region? = some region → known region → b.value = a.value

namespace Twins

variable {buffer : Mailbox.Buffer}

/-- The firmware answers both with one code, and with values that tell no more than the code and the
rows do. -/
theorem carryOut (h : d.Twins known d') (buffer : Mailbox.Buffer) (code : Option UInt32)
    (mask : Option Block) :
    TwinCall known (Answers known (.ofBuffer buffer)) (d.carryOut buffer code mask none)
      (d'.carryOut buffer code mask none) := by
  obtain ⟨same, twins, honest⟩ := h
  generalize d'.rows = rows' at same twins
  subst same
  have codes : ∀ request, { d with rows := rows' }.answerCode request code =
      d.answerCode request code := fun _ => rfl
  simp only [Device.carryOut, codes]
  split
  · exact ⟨⟨rfl, fun _ => Iff.rfl, fun _ _ _ => rfl⟩, rfl, twins, honest⟩
  · cases asked : Request.ofBuffer buffer with
    | read region =>
      refine ⟨⟨by simp, ?_, ?_⟩, rfl, twins, honest⟩
      · simpa using fun _ => twins.blank region
      · rintro _ ⟨⟩ mem
        simpa using twins.equal region mem
    | write region value =>
      have after := twins.burn region (mask.elim value value.flip)
      refine ⟨⟨by simp, ?_, ?_⟩, rfl, after, honest⟩
      · simpa using fun _ => after.blank region
      · rintro _ ⟨⟩ mem
        simpa using after.equal region mem
    | unknown tag => exact ⟨⟨rfl, fun _ => Iff.rfl, fun _ _ _ => rfl⟩, rfl, twins, honest⟩

/-- A request can fail at a fault, the same on both, or be carried out. -/
theorem transfer (h : d.Twins known d') (buffer : Mailbox.Buffer) :
    TwinCall known (Results (Answers known (.ofBuffer buffer))) (d.transfer buffer)
      (d'.transfer buffer) := by
  obtain ⟨effect, e, e', left, right, twins⟩ :=
    h.strike (Request.ofBuffer buffer).point (Request.ofBuffer buffer).region?
  have carried := twins.carryOut buffer
  rw [Device.transfer, Device.transfer]
  simp only [left, right]
  rcases effect with _ | (errno | values | ⟨code, mask, reply⟩)
  · exact ⟨.ok (carried none none).reply, (carried none none).device⟩
  · exact ⟨.error errno, twins⟩
  · exact ⟨.ok (carried none none).reply, (carried none none).device⟩
  · -- An honest fault forges no value.
    have unforged := honest_iff_effects.1 h.honest _ (Fault.mem_of_strike (congrArg (·.1) left))
    cases reply with
    | none => exact ⟨.ok (carried code mask).reply, (carried code mask).device⟩
    | some value => cases unforged

end Twins

/-- What an honest device answers to a read is what its rows hold afterwards. -/
theorem Honest.transfer_read (honest : d.Honest) {region : Region} {buffer answer : Mailbox.Buffer}
    (asked : Request.ofBuffer buffer = .read region)
    (answered : (d.transfer buffer).1 = .ok answer) (accepted : answer.code = Mailbox.success) :
    (d.transfer buffer).2.rows.get region = answer.value := by
  have other : ∀ region value, Request.ofBuffer buffer ≠ .write region value := by
    rw [asked]
    exact fun _ _ => nofun
  obtain ⟨e, -, -, ⟨errno, eq⟩ | ⟨code, mask, reply, unforged, eq⟩⟩ := d.transfer_cases buffer
  · rw [eq] at answered
    cases answered
  · obtain rfl := unforged honest
    rw [eq] at answered ⊢
    obtain rfl := Except.ok.inj answered
    rw [rows_carryOut_of_not_write other, value_carryOut_read asked accepted]

end Device

/-! ## Machines -/

/-- Machines that differ in nothing but the rows of their devices. -/
structure Machine.Twins (known : Region → Prop) (m m' : Machine) : Prop where
  same : m' = { m with device := m'.device }
  device : m.device.Twins known m'.device

namespace Machine.Twins

variable {known : Region → Prop} {m m' : Machine}

theorem forget {known' : Region → Prop} (h : m.Twins known m')
    (fewer : ∀ region, known' region → known region) : m.Twins known' m' :=
  ⟨h.same, h.device.same, h.device.rows.forget fewer, h.device.honest⟩

/-- A read that gave zeros teaches that the rows are equal. -/
theorem learn {region : Region} (h : m.Twins known m')
    (blank : m.device.rows.get region = Block.zero) :
    m.Twins (fun other => other = region ∨ known other) m' :=
  ⟨h.same, h.device.same, h.device.rows.learn blank, h.device.honest⟩

/-- The other machine is this one with another device. -/
theorem exists_device (h : m.Twins known m') :
    ∃ device, m' = { m with device } ∧ m.device.Twins known device := ⟨_, h.same, h.device⟩

theorem claims (h : m.Twins known m') : m'.claims = m.claims := by
  rw [h.same]

theorem events (h : m.Twins known m') : m'.events = m.events := by
  rw [h.same]

theorem log (h : m.Twins known m') : m'.log = m.log := by
  rw [h.same]

theorem record (h : m.Twins known m') (event : Event) :
    (m.record event).Twins known (m'.record event) := by
  obtain ⟨device, rfl, twins⟩ := h.exists_device
  exact ⟨rfl, twins⟩

theorem unrecorded (h : m.Twins known m') : m.unrecorded.Twins known m'.unrecorded := by
  obtain ⟨device, rfl, twins⟩ := h.exists_device
  exact ⟨rfl, twins⟩

theorem withClaims (h : m.Twins known m') (claims : Claims) :
    Machine.Twins known { m with claims } { m' with claims } := by
  obtain ⟨device, rfl, twins⟩ := h.exists_device
  exact ⟨rfl, twins⟩

/-- Machines are twins if their devices are, and the rest is the same. -/
theorem withDevice {device device' : Device} (h : m.Twins known m')
    (twins : device.Twins known device') :
    Machine.Twins known { m with device } { m' with device := device' } := by
  obtain ⟨-, rfl, -⟩ := h.exists_device
  exact ⟨rfl, twins⟩

theorem onDevice {α : Type} {R : α → α → Prop} (h : m.Twins known m')
    (step : Device → α × Device) (call : Device.TwinCall known R (step m.device) (step m'.device)) :
    R (m.onDevice step).1 (m'.onDevice step).1 ∧
      (m.onDevice step).2.Twins known (m'.onDevice step).2 := by
  obtain ⟨device, rfl, -⟩ := h.exists_device
  exact ⟨call.reply, rfl, call.device⟩

/-- The one question whose answer can differ between twins. -/
theorem transfer (h : m.Twins known m') (buffer : Mailbox.Buffer) :
    Results (Device.Answers known (.ofBuffer buffer)) (m.answer (.transfer buffer)).1
        (m'.answer (.transfer buffer)).1 ∧
      (m.answer (.transfer buffer)).2.Twins known (m'.answer (.transfer buffer)).2 :=
  (h.record (.request (.ofBuffer buffer))).onDevice (·.transfer buffer) (h.device.transfer buffer)

/-- A question that is no transfer has the same answer on both. -/
theorem answer (h : m.Twins known m') {action : Action}
    (other : ∀ buffer, action ≠ .transfer buffer) :
    (m'.answer action).1 = (m.answer action).1 ∧
      (m.answer action).2.Twins known (m'.answer action).2 := by
  cases action with
  | transfer buffer => exact absurd rfl (other buffer)
  | openAt path =>
    have answered := (h.record (.openAt path)).onDevice (·.openAt path) (h.device.openAt path)
    exact ⟨answered.1.symm, answered.2⟩
  | close =>
    have answered := (h.record .close).onDevice (·.call .close) (h.device.call .close)
    exact ⟨answered.1.symm, answered.2⟩
  | lock =>
    have answered := (h.record .lock).onDevice (·.lock) h.device.lock
    exact ⟨answered.1.symm, answered.2⟩
  | unlock =>
    have answered := (h.record .unlock).onDevice (·.call .unlock) (h.device.call .unlock)
    exact ⟨answered.1.symm, answered.2⟩
  | fileExists path => exact ⟨h.device.hasFile path, h⟩
  | draw | log _ | claim _ | release _ =>
    obtain ⟨device, rfl, twins⟩ := h.exists_device
    exact ⟨rfl, rfl, twins⟩

end Machine.Twins

/-! ## Discreet programs -/

namespace Program

variable {α β γ δ ε ε' : Type} {known : Region → Prop} {R : α → β → Prop} {S : γ → δ → Prop}

/-- Two programs whose results are alike on twins, and which leave twins. -/
def Discreet (known : Region → Prop) (R : α → β → Prop) (p : Program α) (q : Program β) : Prop :=
  ∀ ⦃m m' : Machine⦄, m.Twins known m' →
    R (p.run m).1 (q.run m').1 ∧ (p.run m).2.Twins known (q.run m').2

theorem discreet_pure {a : α} {b : β} (h : R a b) : Discreet known R (pure a) (pure b) :=
  fun _ _ twins => ⟨h, twins⟩

/-- Every other question has one answer on both. -/
theorem discreet_perform (action : Action) (other : ∀ buffer, action ≠ .transfer buffer) :
    Discreet known Eq (perform action) (perform action) := by
  intro m m' twins
  have answered := twins.answer other
  exact ⟨answered.1.symm, answered.2⟩

theorem discreet_log (level : Level) (text : String) :
    Discreet known Eq (log level text) (log level text) := discreet_perform (.log _) fun _ => nofun

namespace Discreet

theorem bind {p : Program α} {q : Program β} {f : α → Program γ} {g : β → Program δ}
    (first : Discreet known R p q) (second : ∀ a b, R a b → Discreet known S (f a) (g b)) :
    Discreet known S (p >>= f) (q >>= g) := by
  intro m m' twins
  obtain ⟨alike, twins⟩ := first twins
  rw [run_bind, run_bind]
  exact second _ _ alike twins

theorem map {p : Program α} {q : Program β} {f : α → γ} {g : β → δ} (h : Discreet known R p q)
    (alike : ∀ a b, R a b → S (f a) (g b)) : Discreet known S (f <$> p) (g <$> q) := by
  rw [← bind_pure_comp, ← bind_pure_comp]
  exact h.bind fun a b given => discreet_pure (alike a b given)

theorem mono {R' : α → β → Prop} {p : Program α} {q : Program β} (h : Discreet known R p q)
    (weaker : ∀ a b, R a b → R' a b) : Discreet known R' p q :=
  fun _ _ twins => ⟨weaker _ _ (h twins).1, (h twins).2⟩

/-! ### Attempts -/

/-- An attempt that failed has failed on both, and with one error. -/
theorem run_bind {x : Attempt ε α} {y : Attempt ε β} {f : α → Attempt ε γ} {g : β → Attempt ε δ}
    (first : Discreet known (Results R) x.run y.run)
    (second : ∀ a b, R a b → Discreet known (Results S) (f a).run (g b).run) :
    Discreet known (Results S) (x >>= f).run (y >>= g).run := by
  rw [ExceptT.run_bind, ExceptT.run_bind]
  refine first.bind ?_
  rintro _ _ (⟨given⟩ | err)
  · exact second _ _ given
  · exact discreet_pure (.error err)

theorem run_mono {R' : α → β → Prop} {x : Attempt ε α} {y : Attempt ε β}
    (h : Discreet known (Results R) x.run y.run) (weaker : ∀ a b, R a b → R' a b) :
    Discreet known (Results R') x.run y.run := h.mono fun _ _ given => given.mono weaker

theorem run_map {x : Attempt ε α} {y : Attempt ε β} {f : α → γ} {g : β → δ}
    (h : Discreet known (Results R) x.run y.run) (alike : ∀ a b, R a b → S (f a) (g b)) :
    Discreet known (Results S) (f <$> x).run (g <$> y).run := by
  rw [ExceptT.run_map, ExceptT.run_map]
  refine h.map ?_
  rintro _ _ (⟨given⟩ | err)
  · exact .ok (alike _ _ given)
  · exact .error err

theorem run_lift {p : Program α} {q : Program β} (h : Discreet known R p q) :
    Discreet known (Results R) (liftM p : Attempt ε α).run (liftM q : Attempt ε β).run :=
  h.map fun _ _ => .ok

theorem run_adapt {x : Attempt ε α} {y : Attempt ε β} (h : Discreet known (Results R) x.run y.run)
    (f : ε → ε') : Discreet known (Results R) (x.adapt f).run (y.adapt f).run :=
  h.map fun _ _ given => given.mapError f

theorem run_outcome {x : Attempt ε α} {y : Attempt ε β}
    (h : Discreet known (Results R) x.run y.run) :
    Discreet known (Results (Results R)) (outcome x : Attempt ε' (Except ε α)).run
      (outcome y : Attempt ε' (Except ε β)).run :=
  h.map fun _ _ => .ok

/-- Of a clean-up not even the outcome may differ, since its failure takes the place of the
result. -/
theorem run_ensuring {x : Attempt ε α} {y : Attempt ε β} {cleanup : Attempt ε Unit}
    {cleanup' : Attempt ε Unit} (body : Discreet known (Results R) x.run y.run)
    (clean : Discreet known (Results Eq) cleanup.run cleanup'.run) :
    Discreet known (Results R) (ensuring x cleanup).run (ensuring y cleanup').run := by
  refine body.bind fun a b given => clean.bind ?_
  rintro _ _ (⟨⟨⟩⟩ | err)
  · exact discreet_pure given
  · exact discreet_pure (.error err)

end Discreet

theorem discreet_return {a : α} {b : β} (h : R a b) :
    Discreet known (Results R) (pure a : Attempt ε α).run (pure b : Attempt ε β).run :=
  discreet_pure (.ok h)

theorem discreet_throw (err : ε) :
    Discreet known (Results R) (throw err : Attempt ε α).run (throw err : Attempt ε β).run :=
  discreet_pure (.error err)

theorem discreet_ofExcept {r : Except ε α} {r' : Except ε β} (h : Results R r r') :
    Discreet known (Results R) (ofExcept r).run (ofExcept r').run := discreet_pure h

/-- A line of the log that is the same on both sides. -/
theorem discreet_log_bind {level : Level} {text : String} {x : Attempt ε α} {y : Attempt ε β}
    (h : Discreet known (Results R) x.run y.run) :
    Discreet known (Results R)
      (liftM (log level text) >>= fun _ => x : Attempt ε α).run
      (liftM (log level text) >>= fun _ => y : Attempt ε β).run :=
  (discreet_log level text).run_lift.run_bind fun _ _ _ => h

end Program

end DeviceKeys
