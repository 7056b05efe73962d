import DeviceKeys.Keeper
import DeviceKeys.Proofs.Runs
import DeviceKeys.Proofs.Twins

/-!
# What the library lets slip of a secret

Nothing but whether there is one. Each function of the library is discreet, down to the lines of
its log and the words of its errors; where it gives a key, the keys of twins have one length. The
delicate place is the programming of a region, which compares what it reads with what it wrote: it
gets there only behind a read of zeros, and from such a read on the rows of twins are equal.

An override is a secret too. Two overrides are alike if neither digest is all zeros, for then both
are secrets that can be used.
-/

set_option autoImplicit false

namespace DeviceKeys

open Program (Discreet)

variable {known : Region → Prop}

/-! ## Handles -/

namespace Handle

variable {α β γ δ ε : Type} {R : α → β → Prop} {S : γ → δ → Prop} {region : Region}

theorem discreet_call {answer : Program (Except Nat α)} (h : Discreet known Eq answer answer) :
    Discreet known (Results Eq) (call answer).run (call answer).run := by
  refine h.bind ?_
  rintro result _ rfl
  exact Program.discreet_pure (Results.refl _)

theorem discreet_openAt (path : String) :
    Discreet known (Results Eq) (openAt path).run (openAt path).run := by
  refine (Program.discreet_perform (.openAt path) fun _ => nofun).bind ?_
  rintro result _ rfl
  cases result with
  | ok _ => exact Program.discreet_pure (.ok rfl)
  | error errno => exact Program.discreet_pure (.error _)

/-- A close fails on both or on neither, and so leaves the same handle on both. -/
theorem discreet_close (handle : Handle) : Discreet known Eq handle.close handle.close := by
  unfold close
  split
  · refine (discreet_call (Program.discreet_perform .close fun _ => nofun)).bind ?_
    rintro _ _ (⟨⟨⟩⟩ | err)
    · exact Program.discreet_pure rfl
    · exact Program.discreet_pure rfl
  · exact Program.discreet_pure rfl

theorem discreet_lock : Discreet known (Results Eq) lock.run lock.run :=
  discreet_call (Program.discreet_perform .lock fun _ => nofun)

theorem discreet_unlock : Discreet known (Results Eq) unlock.run unlock.run :=
  discreet_call (Program.discreet_perform .unlock fun _ => nofun)

/-- What the body gives may differ, its brackets do not. -/
theorem discreet_closing {refused : CallError → ε} {handle : Handle} {x : Attempt ε α}
    {y : Attempt ε β} (body : Discreet known (Results R) x.run y.run) :
    Discreet known (Results R) (closing refused handle x).run (closing refused handle y).run := by
  refine body.run_ensuring ((discreet_close handle).bind ?_)
  rintro left _ rfl
  exact Program.discreet_pure (Results.refl _)

theorem discreet_locked {refused : CallError → ε} {x : Attempt ε α} {y : Attempt ε β}
    (body : Discreet known (Results R) x.run y.run) :
    Discreet known (Results R) (locked refused x).run (locked refused y).run := by
  refine (discreet_lock.run_adapt refused).run_bind ?_
  rintro _ _ -
  exact body.run_ensuring (discreet_unlock.run_adapt refused)

/-! ### Reading and writing -/

/-- What two reads of a region have in common. -/
def Seen (known : Region → Prop) (region : Region) (value value' : Block) : Prop :=
  (value = Block.zero ↔ value' = Block.zero) ∧ (known region → value' = value)

/-- The code of the answer is the same on both, so that both requests are carried out or neither
is. -/
theorem discreet_exchange {tag : Nat} {value : Option Block}
    (asked : (Request.ofBuffer (.request (.ofNat tag) value)).region? = some region) :
    Discreet known (Results (Seen known region)) (exchange tag value).run
      (exchange tag value).run := by
  intro m m' twins
  rw [run_exchange, run_exchange]
  obtain ⟨reply, left⟩ := twins.transfer (.request (.ofNat tag) value)
  refine ⟨?_, left⟩
  generalize (m.answer (.transfer (.request (.ofNat tag) value))).1 = result at reply
  generalize (m'.answer (.transfer (.request (.ofNat tag) value))).1 = result' at reply
  cases reply with
  | error errno => exact .error _
  | @ok answer answer' alike =>
    simp only [received, alike.code]
    split
    · exact .ok ⟨alike.blank (by rw [asked]; rfl), alike.equal region asked⟩
    · exact .error _

theorem discreet_read (region : Region) :
    Discreet known (Results (Seen known region)) (read region).run (read region).run := by
  refine discreet_exchange ?_
  rw [Request.ofBuffer_read]
  rfl

/-- What a write reads back is the region as it is now, which need not be the same. -/
theorem discreet_write (region : Region) (value : Block) :
    Discreet known (Results (Seen known region)) (write region value).run
      (write region value).run := by
  refine discreet_exchange ?_
  rw [Request.ofBuffer_write]
  rfl

/-- A read on an honest device gives what the rows hold afterwards. -/
theorem run_read_eq_ok {m : Machine} {value : Block} (honest : m.device.Honest)
    (h : ((read region).run.run m).1 = .ok value) :
    ((read region).run.run m).2.device.rows.get region = value := by
  have asked := Request.ofBuffer_read region none
  rw [read, run_exchange] at h ⊢
  change received _ (m.device.transfer _).1 = .ok value at h
  change (m.device.transfer _).2.rows.get region = value
  cases answered :
      (m.device.transfer (.request (.ofNat (Mailbox.tagForReading region)) none)).1 with
  | error errno =>
    rw [answered] at h
    cases h
  | ok answer =>
    rw [answered, received] at h
    split at h
    · next accepted =>
      rw [honest.transfer_read asked answered accepted]
      exact Except.ok.inj h
    · cases h

/-- What comes after a read has to be discreet in three cases; if it gave zeros, the rows of the
region are known to be equal from there on. -/
theorem discreet_read_bind {f : Except CallError Block → Program γ}
    {g : Except CallError Block → Program δ}
    (failed : ∀ err, Discreet known S (f (.error err)) (g (.error err)))
    (blank : Discreet (fun other => other = region ∨ known other) S (f (.ok Block.zero))
      (g (.ok Block.zero)))
    (filled : ∀ value value', value ≠ Block.zero → value' ≠ Block.zero →
      Discreet known S (f (.ok value)) (g (.ok value'))) :
    Discreet known S ((read region).run >>= f) ((read region).run >>= g) := by
  intro m m' twins
  rw [Program.run_bind, Program.run_bind]
  obtain ⟨reads, left⟩ := discreet_read region twins
  have held : ∀ value, ((read region).run.run m).1 = .ok value →
      ((read region).run.run m).2.device.rows.get region = value :=
    fun value => run_read_eq_ok twins.device.honest
  generalize ((read region).run.run m).1 = result at reads held
  generalize ((read region).run.run m').1 = result' at reads
  cases reads with
  | error err => exact failed err left
  | @ok value value' seen =>
    by_cases empty : value = Block.zero
    · obtain rfl : value' = Block.zero := seen.1.1 empty
      subst empty
      obtain ⟨alike, twins⟩ := blank (left.learn (held _ rfl))
      exact ⟨alike, twins.forget fun _ => .inr⟩
    · exact filled value value' empty (mt seen.1.2 empty) left

/-- A visit tells whether the region is blank, and nothing else. -/
theorem discreet_visit (region : Region) (path : String) :
    Discreet known (Results fun value value' => value = Block.zero ↔ value' = Block.zero)
      (visit region path).run (visit region path).run := by
  refine (discreet_openAt path).run_bind ?_
  rintro handle _ rfl
  exact discreet_closing ((discreet_read region).run_mono fun _ _ => And.left)

/-- Whether a region can be read does not depend on what it holds. -/
theorem discreet_offersPrivateKey (path : String) :
    Discreet known Eq (offersPrivateKey path) (offersPrivateKey path) := by
  refine (discreet_visit .privateKey path).bind ?_
  rintro _ _ (⟨-⟩ | err)
  · exact Program.discreet_pure rfl
  · exact (Program.discreet_log _ _).bind fun _ _ _ => Program.discreet_pure rfl

end Handle

/-! ## Media -/

theorem Program.run_adapt_bind {α β ε ε' : Type} (x : Attempt ε α) (f : ε → ε')
    (next : α → Attempt ε' β) : (x.adapt f >>= next).run = x.run >>= fun result =>
      match result with
      | .ok value => (next value).run
      | .error err => pure (.error (f err)) := by
  rw [ExceptT.run_bind]
  show (Except.mapError f <$> x.run) >>= _ = _
  rw [bind_map_left]
  refine congrArg (x.run >>= ·) (funext fun result => ?_)
  cases result <;> rfl

namespace Medium

/-- The same medium, or two overrides that hold a secret. -/
inductive Alike : Medium → Medium → Prop
  | same (medium : Medium) : Alike medium medium
  | override {seed seed' : Bytes} (secret : (RootSecret.ofSeed seed).isBlank = false)
      (secret' : (RootSecret.ofSeed seed').isBlank = false) :
      Alike (.override seed) (.override seed')

/-- A look tells blank from filled, and that is the same on both. -/
theorem discreet_inspectRegion (region : Region) (path : String) :
    Discreet known (Results Eq) (inspectRegion region path).run
      (inspectRegion region path).run := by
  refine (Handle.discreet_visit region path).run_outcome.run_bind ?_
  rintro _ _ (⟨blank⟩ | err)
  · next value value' =>
    have same : stateOf value' = stateOf value := by
      simp only [stateOf, Block.isBlank, beq_iff_eq, blank]
    simp only [same]
    exact Program.discreet_log_bind (Program.discreet_return rfl)
  · show Discreet _ _ (ite _ _ _ : Attempt Error RegionState).run
      (ite _ _ _ : Attempt Error RegionState).run
    split
    · exact Program.discreet_log_bind (Program.discreet_return rfl)
    · cases err with
      | rejected tag code => exact Program.discreet_log_bind (Program.discreet_return rfl)
      | system errno path => exact Program.discreet_throw _

/-- Under the lock the value that is read back is compared with the one that was written. -/
theorem discreet_burn (region : Region) (value : Block) :
    Discreet known (Results Eq) (burn region value).run (burn region value).run := by
  rw [burn, Program.run_adapt_bind]
  refine Handle.discreet_read_bind ?failed ?blank ?filled
  case failed =>
    intro err
    exact Program.discreet_pure (.error _)
  case blank =>
    have empty : Block.zero.isBlank = true := by decide
    simp only [empty, Bool.not_true, Bool.false_eq_true, ↓reduceIte]
    refine Program.discreet_log_bind (Discreet.run_bind (R := Eq) (Discreet.run_adapt ?_ _) ?_)
    · refine (Handle.discreet_write region value).run_bind ?_
      intro _ _ _
      -- The region was blank, so what is read back is the same on both sides.
      exact (Handle.discreet_read region).run_mono fun _ _ seen => (seen.2 (.inl rfl)).symm
    · rintro written _ rfl
      split
      · exact Program.discreet_throw _
      · exact Program.discreet_return rfl
  case filled =>
    intro current current' filled filled'
    have found : current.isBlank = false := by simpa [Block.isBlank] using filled
    have found' : current'.isBlank = false := by simpa [Block.isBlank] using filled'
    simp only [found, found', Bool.not_false, ↓reduceIte]
    exact Program.discreet_throw _

theorem discreet_programRegion (region : Region) (path : String) (value : Block) :
    Discreet known (Results Eq) (programRegion region path value).run
      (programRegion region path value).run := by
  refine ((Handle.discreet_openAt path).run_adapt _).run_bind ?_
  rintro handle _ rfl
  refine (Handle.discreet_closing (Handle.discreet_locked (discreet_burn region value))).run_bind ?_
  rintro _ _ -
  exact (Program.discreet_log _ _).run_lift

variable {medium medium' : Medium}

theorem Alike.region? (h : Alike medium medium') : medium'.region? = medium.region? := by
  cases h <;> rfl

theorem Alike.claim? (h : Alike medium medium') : medium'.claim? = medium.claim? := by
  cases h <;> rfl

theorem Alike.placeName (h : Alike medium medium') : medium'.placeName = medium.placeName := by
  cases h <;> rfl

theorem Alike.text (h : Alike medium medium') : medium'.text = medium.text := by
  cases h <;> rfl

theorem Alike.close (h : Alike medium medium') :
    Discreet known Eq medium.close medium'.close := by
  cases h with
  | same =>
    cases medium with
    | otp region path id => exact Program.discreet_perform (.release id) fun _ => nofun
    | override seed => exact Program.discreet_pure rfl
  | override => exact Program.discreet_pure rfl

theorem Alike.inspect (h : Alike medium medium') :
    Discreet known (Results Eq) medium.inspect.run medium'.inspect.run := by
  cases h with
  | same =>
    cases medium with
    | otp region path id => exact discreet_inspectRegion region path
    | override seed => exact Program.discreet_return rfl
  | override => exact Program.discreet_return rfl

theorem Alike.program (h : Alike medium medium') (bytes : Bytes) :
    Discreet known (Results Eq) (medium.program bytes).run (medium'.program bytes).run := by
  cases h with
  | same =>
    cases medium with
    | otp region path id =>
      simp only [Medium.program]
      cases Block.ofBytes? bytes with
      | some value => exact discreet_programRegion region path value
      | none => exact Program.discreet_throw _
    | override seed => exact (Program.discreet_log _ _).run_lift
  | override => exact (Program.discreet_log _ _).run_lift

/-- Two secrets that are fetched are both blank or both not. -/
theorem Alike.fetch (h : Alike medium medium') :
    Discreet known (Results fun secret secret' => secret'.isBlank = secret.isBlank)
      medium.fetch.run medium'.fetch.run := by
  cases h with
  | same =>
    cases medium with
    | otp region path id =>
      refine ((Handle.discreet_visit region path).run_adapt _).run_bind ?_
      intro value value' blank
      refine Program.discreet_return ?_
      rw [Bool.eq_iff_iff]
      simpa [RootSecret.isBlank, Block.isBlank] using blank.symm
    | override seed => exact Program.discreet_return rfl
  | override secret secret' => exact Program.discreet_return (secret'.trans secret.symm)

theorem discreet_claim (region : Region) (path : String) :
    Discreet known (Results Eq) (claim region path).run (claim region path).run := by
  refine (Program.discreet_perform (.claim region) fun _ => nofun).run_lift.run_bind ?_
  rintro granted _ rfl
  cases granted with
  | some id => exact Program.discreet_return rfl
  | none => exact Program.discreet_throw _

end Medium

/-! ## Settings -/

/-- The same override, or two texts each of which stands for a secret. -/
inductive OverrideAlike : Option String → Option String → Prop
  | same (override : Option String) : OverrideAlike override override
  | hidden {text text' : String}
      (secret : (RootSecret.ofSeed (Bytes.ofText text)).isBlank = false)
      (secret' : (RootSecret.ofSeed (Bytes.ofText text')).isBlank = false) :
      OverrideAlike (some text) (some text')

/-- That there is an override is no secret. -/
theorem OverrideAlike.isSome {override override' : Option String}
    (h : OverrideAlike override override') : override'.isSome = override.isSome := by
  cases h <;> rfl

/-- Settings that differ in the text of an override at most. -/
structure Settings.Alike (settings settings' : Settings) : Prop where
  same : settings' = { settings with override := settings'.override }
  override : OverrideAlike settings.override settings'.override

/-- Environments that differ in the text of an override at most. -/
structure Environment.Alike (env env' : Environment) : Prop where
  same : env' = { env with override := env'.override }
  override : OverrideAlike env.override env'.override

namespace Settings

variable {settings settings' : Settings}

theorem Alike.refl (settings : Settings) : Alike settings settings := ⟨rfl, .same _⟩

theorem Alike.path (h : Alike settings settings') : settings'.path = settings.path := by
  rw [h.same]

theorem Alike.salt (h : Alike settings settings') : settings'.salt = settings.salt := by
  rw [h.same]

/-- Settings are alike if the environments are, whatever is given besides. -/
theorem Alike.ofEnvironment {env env' : Environment} (h : env.Alike env')
    (customerRegion : Option Bool) (salt : Option String) :
    (ofEnvironment env customerRegion salt).Alike (ofEnvironment env' customerRegion salt) := by
  obtain ⟨same, override⟩ := h
  rw [same]
  exact ⟨rfl, override⟩

/-- The warning about an override does not say what it is. -/
theorem discreet_load {env env' : Environment} (h : env.Alike env')
    (customerRegion : Option Bool) (salt : Option String) :
    Discreet known
      (fun settings settings' => settings = ofEnvironment env customerRegion salt ∧
        settings' = ofEnvironment env' customerRegion salt)
      (load env customerRegion salt) (load env' customerRegion salt) := by
  unfold load
  rw [h.override.isSome]
  split
  · exact (Program.discreet_log _ _).bind fun _ _ _ => Program.discreet_pure ⟨rfl, rfl⟩
  · exact Program.discreet_pure ⟨rfl, rfl⟩

end Settings

/-! ## Keys -/

theorem Uuid.length_text (uuid : Uuid) : uuid.text.length = 36 := by
  have digits : (Bytes.hexDigits uuid.bytes.toList).length = 32 := by
    rw [Bytes.length_hexDigits, Vector.length_toList]
  rw [text, String.length_ofList, hyphenate]
  simp only [List.length_append, List.length_cons, List.length_take, List.length_drop, digits]
  decide

theorem Bytes.length_hex (bytes : Bytes) : bytes.hex.length = 2 * bytes.length := by
  simp [Bytes.hex]

/-- Keys of one length are given or refused alike, whatever the secret. -/
theorem Key.results_ofLength (secret secret' : RootSecret) (label : Label) (length : Int)
    (salt : Option Bytes) : Results (fun key key' => key'.length = key.length)
      (ofLength secret label length salt) (ofLength secret' label length salt) := by
  unfold ofLength
  split
  · exact .error _
  · refine .ok ?_
    simp [material]

theorem Key.results_hexOfLength (secret secret' : RootSecret) (label : Label) (length : Int)
    (salt : Option Bytes) : Results (fun key key' => key'.length = key.length)
      (hexOfLength secret label length salt) (hexOfLength secret' label length salt) := by
  have alike := results_ofLength secret secret' label length salt
  unfold hexOfLength
  generalize ofLength secret label length salt = key at alike
  generalize ofLength secret' label length salt = key' at alike
  cases alike with
  | ok same =>
    refine .ok ?_
    rw [Bytes.length_hex, Bytes.length_hex, same]
  | error err => exact .error _

/-! ## Keepers -/

/-- The same settings but for the override lead to the same kind of medium. -/
theorem Medium.discreet_ofSettings {settings settings' : Settings}
    (h : settings.Alike settings') : Discreet known (Results Medium.Alike)
      (ofSettings settings).run (ofSettings settings').run := by
  obtain ⟨same, alike⟩ := h
  generalize settings'.override = override' at same alike
  subst same
  obtain ⟨customerRegion, override, salt, path⟩ := settings
  cases alike with
  | same =>
    cases override with
    | some text => exact Program.discreet_return (.same _)
    | none =>
      refine (discreet_claim (Settings.region ⟨customerRegion, none, salt, path⟩) path).run_mono ?_
      rintro medium _ rfl
      exact .same medium
  | hidden secret secret' => exact Program.discreet_return (.override secret secret')

namespace Keeper

structure Alike (keeper keeper' : Keeper) : Prop where
  settings : keeper.settings.Alike keeper'.settings
  medium : keeper.medium.Alike keeper'.medium

theorem discreet_make {settings settings' : Settings} (h : settings.Alike settings')
    {medium medium' : Option Medium} (given : Option.Rel Medium.Alike medium medium') :
    Discreet known (Results Alike) (make settings medium).run (make settings' medium').run := by
  have made : ∀ {medium other : Medium}, medium.Alike other → Discreet known (Results Alike)
      (do Program.log .debug s!"Secret store using {medium.text}"
          return ⟨settings, medium⟩ : Attempt Error Keeper).run
      (do Program.log .debug s!"Secret store using {other.text}"
          return ⟨settings', other⟩ : Attempt Error Keeper).run := by
    intro medium other alike
    rw [alike.text]
    exact Program.discreet_log_bind (Program.discreet_return ⟨h, alike⟩)
  cases given with
  | some alike => exact made alike
  | none => exact (Medium.discreet_ofSettings h).run_bind fun _ _ => made

variable {keeper keeper' : Keeper}

theorem Alike.placeName (h : Alike keeper keeper') : keeper'.placeName = keeper.placeName :=
  h.medium.placeName

theorem Alike.text (h : Alike keeper keeper') : keeper'.text = keeper.text := by
  rw [Keeper.text, Keeper.text, h.placeName]

theorem Alike.state (h : Alike keeper keeper') :
    Discreet known (Results Eq) keeper.state.run keeper'.state.run := h.medium.inspect

theorem Alike.isProvided (h : Alike keeper keeper') :
    Discreet known (Results Eq) keeper.isProvided.run keeper'.isProvided.run := by
  refine h.state.run_bind ?_
  rintro state _ rfl
  exact Program.discreet_return rfl

theorem Alike.provideFresh (h : Alike keeper keeper') :
    Discreet known (Results Eq) keeper.provideFresh.run keeper'.provideFresh.run := by
  unfold Keeper.provideFresh
  rw [h.placeName]
  refine (Program.discreet_perform .draw fun _ => nofun).run_lift.run_bind ?_
  rintro value _ rfl
  refine (h.medium.program _).run_outcome.run_bind ?_
  rintro _ _ (⟨rfl⟩ | err)
  · exact Program.discreet_log_bind (Program.discreet_return rfl)
  · cases err with
    | alreadyProgrammed region => exact Program.discreet_log_bind (Program.discreet_return rfl)
    | _ => exact Program.discreet_throw _

theorem Alike.provide (h : Alike keeper keeper') :
    Discreet known (Results Eq) keeper.provide.run keeper'.provide.run := by
  unfold Keeper.provide
  rw [h.placeName]
  refine (h.state.run_adapt _).run_bind ?_
  rintro state _ rfl
  cases state with
  | programmed => exact Program.discreet_log_bind (Program.discreet_return rfl)
  | unavailable => exact Program.discreet_throw _
  | blank => exact h.provideFresh

/-- Whether there is a secret, and why not, is the same on twins; the secret need not be. -/
theorem Alike.secret (h : Alike keeper keeper') :
    Discreet known (Results fun _ _ => True) keeper.secret.run keeper'.secret.run := by
  unfold Keeper.secret
  rw [h.placeName]
  refine h.state.run_bind ?_
  rintro state _ rfl
  cases state with
  | blank => exact Program.discreet_throw _
  | unavailable => exact Program.discreet_throw _
  | programmed =>
    refine h.medium.fetch.run_bind ?_
    intro secret secret' same
    simp only [same]
    split
    · exact Program.discreet_throw _
    · exact Program.discreet_return trivial

/-! ### Keys -/

/-- Lengths are refused by their size alone, and a key that is given has the length that was asked
for. -/
theorem Alike.key (h : Alike keeper keeper') (label : Label) (length : Int) :
    Discreet known (Results fun key key' => key'.length = key.length)
      (keeper.key label length).run (keeper'.key label length).run := by
  unfold Keeper.key
  rw [h.settings.salt]
  refine h.secret.run_bind ?_
  intro secret secret' _
  refine (Program.discreet_ofExcept (Key.results_ofLength secret secret' _ _ _)).run_bind ?_
  intro key key' same
  exact Program.discreet_log_bind (Program.discreet_return same)

theorem Alike.hexKey (h : Alike keeper keeper') (label : Label) (length : Int) :
    Discreet known (Results fun key key' => key'.length = key.length)
      (keeper.hexKey label length).run (keeper'.hexKey label length).run := by
  unfold Keeper.hexKey
  rw [h.settings.salt]
  refine h.secret.run_bind ?_
  intro secret secret' _
  exact Program.discreet_ofExcept (Key.results_hexOfLength secret secret' _ _ _)

/-- Every UUID is as long as the other; of its digits nothing is claimed. -/
theorem Alike.uuid (h : Alike keeper keeper') (label : Label) :
    Discreet known (Results fun _ _ => True) (keeper.uuid label).run (keeper'.uuid label).run :=
  h.secret.run_bind fun _ _ _ => Program.discreet_return trivial

/-! ### Diagnostics -/

/-- A medium that is made for one look meets the same claims on both. -/
theorem Alike.stateOf (h : Alike keeper keeper') (region : Region) :
    Discreet known (Results Eq) (keeper.stateOf region).run (keeper'.stateOf region).run := by
  unfold Keeper.stateOf
  rw [h.medium.region?, h.settings.path]
  split
  · exact h.medium.inspect
  · refine (Medium.discreet_claim _ _).run_bind ?_
    rintro medium _ rfl
    have alike := Medium.Alike.same medium
    exact alike.inspect.run_ensuring alike.close.run_lift

/-- The report tells of both regions whether they are filled, and no more. -/
theorem Alike.report (h : Alike keeper keeper') :
    Discreet known (Results Eq) keeper.report.run keeper'.report.run := by
  unfold Keeper.report
  rw [h.settings.path]
  refine (h.stateOf .privateKey).run_bind ?_
  rintro privateKey _ rfl
  refine (h.stateOf .customer).run_bind ?_
  rintro customer _ rfl
  refine (Program.discreet_perform (.fileExists _) fun _ => nofun).run_lift.run_bind ?_
  rintro present _ rfl
  exact Program.discreet_return rfl

end Keeper

end DeviceKeys
