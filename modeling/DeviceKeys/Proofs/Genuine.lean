import DeviceKeys.Proofs.Classification
import DeviceKeys.Proofs.KeyCommands

/-!
# Only a real secret reaches a key

The secret is read in two sessions with the device, and nothing ties the second to the first: in
between the rows can change, the firmware can start to reject, the file can go away, and either
answer can be forged. What the first session found decides whether there is a second one, and the
second decides the rest (`Keeper.run_secret`). So a secret comes out in a single way, on which all
six calls went well and both reads brought something else than zeros.

A key, in whichever shape, is made of such a secret or not at all.
-/

set_option autoImplicit false

namespace DeviceKeys

/-! ## Keys -/

namespace Key

variable {secret : RootSecret} {label : Label} {length : Int} {salt : Option Bytes}

theorem eq_material {bytes : Bytes} (h : ofLength secret label length salt = .ok bytes) :
    bytes = material secret label length.toNat salt := by
  unfold ofLength at h
  split at h
  · cases h
  · cases h
    rfl

theorem hex_eq_material {text : String} (h : hexOfLength secret label length salt = .ok text) :
    text = Bytes.hex (material secret label length.toNat salt) := by
  unfold hexOfLength at h
  cases derived : ofLength secret label length salt with
  | error err =>
    rw [derived] at h
    cases h
  | ok bytes =>
    rw [derived, eq_material derived] at h
    exact (Except.ok.inj h).symm

end Key

/-! ## The two sessions -/

namespace Handle

theorem decided (region : Region) (path : String) (m : Machine) :
    Decided region path ((visit region path).run.run m).1
      ((visit region path).run.exchanges m) := by
  rw [Program.exchanges_eq_calls]
  exact (visited region path m).decided

variable {region : Region} {path : String} {seen : Except CallError Block} {value closed : Block}

/-- A session that went well gave what was read. -/
theorem Decided.eq_ok
    (h : Decided region path seen (session region path (.ok value) (.ok closed))) :
    seen = .ok value := by
  generalize exchanged : session region path (.ok value) (.ok closed) = exchanges at h
  cases h <;> simp [session] at exchanged
  rw [exchanged.1]

theorem Decided.of_ok {exchanges : List Exchange} (h : Decided region path (.ok value) exchanges) :
    exchanges = session region path (.ok value) (.ok Block.zero) := by
  cases h
  rfl

/-- A session has three calls at most. -/
theorem Decided.length_le {exchanges : List Exchange} (h : Decided region path seen exchanges) :
    exchanges.length ≤ 3 := by
  cases h <;> simp [session]

end Handle

namespace Keeper

open Handle (Decided session)

/-- What comes of a second session, by what its visit gave. -/
def reveal (region : Region) : Except CallError Block → Except Error RootSecret
  | .error err => .error (.readingFailed (.call region err))
  | .ok value =>
    if value = Block.zero then .error (.readingFailed (.empty region.name)) else .ok ⟨value⟩

section

variable (settings : Settings) (region : Region) (path : String) (claim : ClaimId) (m : Machine)

/-- What a keeper finds at a look is what the look concludes from its session. -/
theorem looked : ∃ seen,
    Decided region path seen ((state ⟨settings, .otp region path claim⟩).run.exchanges m) ∧
      ((state ⟨settings, .otp region path claim⟩).run.run m).1 = Medium.judge region seen := by
  obtain ⟨seen, visited, judged⟩ := Medium.inspected region path m
  refine ⟨seen, ?_, judged⟩
  rw [Program.exchanges_eq_calls]
  exact visited.decided

/-- The first session decides whether there is a second one, and the second decides the rest. -/
theorem run_secret : ((secret ⟨settings, .otp region path claim⟩).run.run m).1 =
    match ((state ⟨settings, .otp region path claim⟩).run.run m).1 with
    | .ok .programmed => reveal region ((Handle.visit region path).run.run
        ((state ⟨settings, .otp region path claim⟩).run.run m).2).1
    | .ok .blank => .error (.regionBlank region.name)
    | .ok .unavailable => .error (.regionUnavailable region.name)
    | .error err => .error err := by
  rw [secret, Program.run_attempt_bind]
  rcases ((state ⟨settings, .otp region path claim⟩).run.run m).1 with err | found
  · rfl
  · cases found with
    | blank => rfl
    | unavailable => rfl
    | programmed =>
      simp only [Medium.fetch, Program.run_attempt_bind, Program.run_adapt]
      cases ((Handle.visit region path).run.run
        ((state ⟨settings, .otp region path claim⟩).run.run m).2).1 with
      | error err => rfl
      | ok value =>
        have answered : (reveal region (.ok value)) =
            if (RootSecret.mk value).isBlank then .error (.readingFailed (.empty region.name))
            else .ok ⟨value⟩ := by
          simp [reveal, RootSecret.isBlank, Block.isBlank]
        rw [mapError_ok, answered]
        show ((ite _ _ _ : Attempt Error RootSecret).run.run _).1 = _
        split <;> rfl

theorem exchanges_secret : (secret ⟨settings, .otp region path claim⟩).run.exchanges m =
    (state ⟨settings, .otp region path claim⟩).run.exchanges m ++
      match ((state ⟨settings, .otp region path claim⟩).run.run m).1 with
      | .ok .programmed => (Handle.visit region path).run.exchanges
          ((state ⟨settings, .otp region path claim⟩).run.run m).2
      | _ => [] := by
  refine (Program.excerpt_attempt_bind _ _ _ m).trans (congrArg (_ ++ ·) ?_)
  rcases ((state ⟨settings, .otp region path claim⟩).run.run m).1 with err | found
  · rfl
  · cases found with
    | blank => rfl
    | unavailable => rfl
    | programmed =>
      refine (Program.excerpt_bind_silent _ ?_ _).trans (Medium.exchanges_fetch _ _ _ _)
      intro secret m
      split <;> rfl

end

/-! ## Where a secret comes from -/

/-- Where a secret comes from and where none comes from, and what the keys are made of. -/
structure Genuine (keeper : Keeper) (region : Region) (path : String) (m : Machine) : Prop where
  /-- There is a secret exactly if two sessions went well from end to end, of which the first read
  something and the second the secret, and neither of the two is zeros. -/
  given : ∀ secret : RootSecret, (keeper.secret.run.run m).1 = .ok secret ↔
    ∃ first, first ≠ Block.zero ∧ secret.block ≠ Block.zero ∧ keeper.secret.run.exchanges m =
      session region path (.ok first) (.ok Block.zero) ++
        session region path (.ok secret.block) (.ok Block.zero)
  blank : (keeper.secret.run.run m).1 = .error (.regionBlank region.name) ↔
    (keeper.state.run.run m).1 = .ok .blank
  unavailable : (keeper.secret.run.run m).1 = .error (.regionUnavailable region.name) ↔
    (keeper.state.run.run m).1 = .ok .unavailable
  /-- Behind a look that did not find the region programmed, nothing is read. -/
  once : (keeper.state.run.run m).1 ≠ .ok .programmed →
    keeper.secret.run.exchanges m = keeper.state.run.exchanges m
  /-- Behind one that did stands a second session, and what it gave decides. -/
  twice : (keeper.state.run.run m).1 = .ok .programmed → ∃ seen exchanges,
    Decided region path seen exchanges ∧
      keeper.secret.run.exchanges m = keeper.state.run.exchanges m ++ exchanges ∧
      (keeper.secret.run.run m).1 = reveal region seen
  /-- In every remaining case the secret cannot be read. -/
  unread : (keeper.state.run.run m).1 ≠ .ok .blank → (keeper.state.run.run m).1 ≠ .ok .unavailable →
    (∀ secret, (keeper.secret.run.run m).1 ≠ .ok secret) →
    ∃ cause, (keeper.secret.run.run m).1 = .error (.readingFailed cause)
  /-- A key is made of the secret that was read for it, and no key is made of zeros. -/
  key : ∀ label length bytes, ((keeper.key label length).run.run m).1 = .ok bytes →
    ∃ secret, (keeper.secret.run.run m).1 = .ok secret ∧ secret.block ≠ Block.zero ∧
      (keeper.key label length).run.exchanges m = keeper.secret.run.exchanges m ∧
      bytes = Key.material secret label length.toNat keeper.settings.salt
  hexKey : ∀ label length text, ((keeper.hexKey label length).run.run m).1 = .ok text →
    ∃ secret, (keeper.secret.run.run m).1 = .ok secret ∧ secret.block ≠ Block.zero ∧
      (keeper.hexKey label length).run.exchanges m = keeper.secret.run.exchanges m ∧
      text = Bytes.hex (Key.material secret label length.toNat keeper.settings.salt)
  uuid : ∀ label uuid, ((keeper.uuid label).run.run m).1 = .ok uuid →
    ∃ secret, (keeper.secret.run.run m).1 = .ok secret ∧ secret.block ≠ Block.zero ∧
      (keeper.uuid label).run.exchanges m = keeper.secret.run.exchanges m ∧
      uuid = Key.uuid secret label keeper.settings.salt

theorem reveal_eq_ok {region : Region} {seen : Except CallError Block} {secret : RootSecret} :
    reveal region seen = .ok secret ↔ seen = .ok secret.block ∧ secret.block ≠ Block.zero := by
  cases seen with
  | error err => simp [reveal]
  | ok value =>
    by_cases blank : value = Block.zero
    · simp [reveal, blank, eq_comm]
    · simp only [reveal, if_neg blank]
      constructor
      · rintro ⟨⟩
        exact ⟨rfl, blank⟩
      · rintro ⟨⟨⟩, -⟩
        rfl

/-- A second session that gives no secret is a failure to read. -/
theorem reveal_eq_error {region : Region} {seen : Except CallError Block} {err : Error}
    (h : reveal region seen = .error err) : ∃ cause, err = .readingFailed cause := by
  cases seen with
  | error cause =>
    cases h
    exact ⟨_, rfl⟩
  | ok value =>
    by_cases blank : value = Block.zero
    · simp only [reveal, if_pos blank, Except.error.injEq] at h
      exact ⟨_, h.symm⟩
    · simp only [reveal, if_neg blank, reduceCtorEq] at h

section

variable (settings : Settings) (region : Region) (path : String) (claim : ClaimId) (m : Machine)

theorem exchanges_secret_once
    (h : ((state ⟨settings, .otp region path claim⟩).run.run m).1 ≠ .ok .programmed) :
    (secret ⟨settings, .otp region path claim⟩).run.exchanges m =
      (state ⟨settings, .otp region path claim⟩).run.exchanges m := by
  rw [exchanges_secret]
  split
  · next found => exact absurd found h
  · exact List.append_nil _

theorem exchanges_secret_twice
    (h : ((state ⟨settings, .otp region path claim⟩).run.run m).1 = .ok .programmed) :
    ∃ seen exchanges, Decided region path seen exchanges ∧
      (secret ⟨settings, .otp region path claim⟩).run.exchanges m =
        (state ⟨settings, .otp region path claim⟩).run.exchanges m ++ exchanges ∧
      ((secret ⟨settings, .otp region path claim⟩).run.run m).1 = reveal region seen := by
  refine ⟨_, _, Handle.decided region path
    ((state ⟨settings, .otp region path claim⟩).run.run m).2, ?_, ?_⟩
  · rw [exchanges_secret, h]
  · rw [run_secret, h]

/-- A look finds a region programmed only in a session that went well. -/
theorem exchanges_state_programmed
    (h : ((state ⟨settings, .otp region path claim⟩).run.run m).1 = .ok .programmed) :
    ∃ first, first ≠ Block.zero ∧ (state ⟨settings, .otp region path claim⟩).run.exchanges m =
      session region path (.ok first) (.ok Block.zero) := by
  obtain ⟨seen, decided, judged⟩ := looked settings region path claim m
  obtain ⟨first, rfl, filled⟩ := Medium.judge_eq_programmed (judged.symm.trans h)
  exact ⟨first, filled, decided.of_ok⟩

theorem secret_eq_ok_iff (s : RootSecret) :
    ((secret ⟨settings, .otp region path claim⟩).run.run m).1 = .ok s ↔
      ∃ first, first ≠ Block.zero ∧ s.block ≠ Block.zero ∧
        (secret ⟨settings, .otp region path claim⟩).run.exchanges m =
          session region path (.ok first) (.ok Block.zero) ++
            session region path (.ok s.block) (.ok Block.zero) := by
  by_cases found : ((state ⟨settings, .otp region path claim⟩).run.run m).1 = .ok .programmed
  · obtain ⟨first, filled, opening⟩ := exchanges_state_programmed settings region path claim m found
    obtain ⟨seen, exchanges, decided, all, revealed⟩ :=
      exchanges_secret_twice settings region path claim m found
    rw [revealed, all, opening, reveal_eq_ok]
    constructor
    · rintro ⟨rfl, real⟩
      exact ⟨first, filled, real, congrArg (_ ++ ·) decided.of_ok⟩
    · rintro ⟨first', -, real, same⟩
      -- Both begin with a whole session, so they go on alike.
      have rest := (List.append_inj same rfl).2
      subst rest
      exact ⟨decided.eq_ok, real⟩
  · constructor
    · intro given
      rw [run_secret] at given
      split at given
      · next here => exact absurd here found
      · cases given
      · cases given
      · cases given
    · rintro ⟨first, -, -, all⟩
      -- One session is too short for two.
      obtain ⟨seen, decided, -⟩ := looked settings region path claim m
      rw [exchanges_secret_once settings region path claim m found] at all
      have short := decided.length_le
      rw [all] at short
      simp [session] at short

/-- What a missing secret says about the look, and the look about a missing secret. -/
theorem secret_eq_error {err : Error}
    (h : ((secret ⟨settings, .otp region path claim⟩).run.run m).1 = .error err) :
    ((state ⟨settings, .otp region path claim⟩).run.run m).1 = .ok .blank ∧
        err = .regionBlank region.name ∨
      ((state ⟨settings, .otp region path claim⟩).run.run m).1 = .ok .unavailable ∧
        err = .regionUnavailable region.name ∨
      ∃ cause, err = .readingFailed cause := by
  rw [run_secret] at h
  split at h
  · exact .inr (.inr (reveal_eq_error h))
  · next found =>
    cases h
    exact .inl ⟨found, rfl⟩
  · next found =>
    cases h
    exact .inr (.inl ⟨found, rfl⟩)
  · next cause found =>
    cases h
    exact .inr (.inr (Medium.inspectRegion_eq_error found))

/-- What is made of a secret is made of one that was read, and not of zeros. -/
theorem made_of_secret {α : Type} {derive : RootSecret → Except Error α} {value : α}
    (h : (((secret ⟨settings, .otp region path claim⟩).run.run m).1 >>= derive) = .ok value) :
    ∃ s, ((secret ⟨settings, .otp region path claim⟩).run.run m).1 = .ok s ∧
      s.block ≠ Block.zero ∧ derive s = .ok value := by
  cases given : ((secret ⟨settings, .otp region path claim⟩).run.run m).1 with
  | error err =>
    rw [given] at h
    cases h
  | ok s =>
    rw [given] at h
    obtain ⟨_, -, real, -⟩ := (secret_eq_ok_iff settings region path claim m s).1 given
    exact ⟨s, rfl, real, h⟩

theorem secret_genuine : Genuine ⟨settings, .otp region path claim⟩ region path m where
  given := secret_eq_ok_iff settings region path claim m
  blank := by
    constructor
    · intro missing
      simpa using secret_eq_error settings region path claim m missing
    · intro found
      rw [run_secret, found]
  unavailable := by
    constructor
    · intro missing
      simpa using secret_eq_error settings region path claim m missing
    · intro found
      rw [run_secret, found]
  once := exchanges_secret_once settings region path claim m
  twice := exchanges_secret_twice settings region path claim m
  unread := by
    intro filled offered nothing
    cases missing : ((secret ⟨settings, .otp region path claim⟩).run.run m).1 with
    | ok s => exact absurd missing (nothing s)
    | error err =>
      rcases secret_eq_error settings region path claim m missing with
        ⟨found, -⟩ | ⟨found, -⟩ | ⟨cause, rfl⟩
      · exact absurd found filled
      · exact absurd found offered
      · exact ⟨cause, rfl⟩
  key := by
    intro label length bytes derived
    rw [run_key] at derived
    obtain ⟨s, given, real, made⟩ := made_of_secret settings region path claim m derived
    exact ⟨s, given, real, exchanges_key _ m label length, Key.eq_material made⟩
  hexKey := by
    intro label length text derived
    rw [run_hexKey] at derived
    obtain ⟨s, given, real, made⟩ := made_of_secret settings region path claim m derived
    exact ⟨s, given, real, exchanges_hexKey _ m label length, Key.hex_eq_material made⟩
  uuid := by
    intro label uuid derived
    rw [run_uuid] at derived
    obtain ⟨s, given, real, made⟩ := made_of_secret settings region path claim m derived
    exact ⟨s, given, real, exchanges_uuid _ m label, (Except.ok.inj made).symm⟩

end

end Keeper

end DeviceKeys
