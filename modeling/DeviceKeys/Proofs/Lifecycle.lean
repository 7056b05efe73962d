import DeviceKeys.Vault
import Mathlib.Data.List.Induction

/-!
# The life of a secret

What a name of a vault stands for can be told from the steps so far, without a look into the vault:
the bytes that its last construction brought, until a step erases that very secret, and zeros ever
after (`Holds`). One step does to a vault what it adds to such an account (`bytes?_advance`,
`holds_snoc`), so by induction on the steps, with the last one taken off, the vault holds under
every name what the steps say (`bytes?_reached`).

What a step answers is decided by the bytes that its secrets hold at that point, and for the steps
that show nothing of a secret it is the same for all bytes (`lifecycle`).
-/

set_option autoImplicit false

namespace DeviceKeys

/-! ## Secrets and their bytes -/

namespace RootSecret

variable {secret other : RootSecret}

theorem bytes_inj : secret.bytes = other.bytes ↔ secret = other := by
  constructor
  · intro same
    obtain ⟨block⟩ := secret
    obtain ⟨otherBlock⟩ := other
    exact congrArg mk (Vector.toList_inj.1 same)
  · exact congrArg bytes

/-- The bytes of a secret that was erased. -/
def zeros : Bytes := List.replicate 32 0

theorem bytes_erased : erased.bytes = zeros := rfl

/-- Secrets are compared by all of their bytes. -/
theorem beq_eq_decide_bytes : (secret == other) = decide (secret.bytes = other.bytes) :=
  decide_eq_decide.2 bytes_inj.symm

theorem isBlank_eq_all : secret.isBlank = secret.bytes.all (· == 0) := by
  have blank : secret.isBlank = true ↔ secret.bytes = zeros := by
    rw [← bytes_erased, bytes_inj, isBlank, Block.isBlank, beq_iff_eq]
    exact ⟨congrArg mk, congrArg block⟩
  rw [Bool.eq_iff_iff, blank, zeros, List.eq_replicate_iff]
  simp [secret.length_bytes]

end RootSecret

/-! ## Steps, as a name sees them -/

/-- Whether a step erases the secret that it is done on. -/
def SecretStep.erases : SecretStep → Bool
  | erase | useInBlock | failInBlock => true
  | _ => false

namespace VaultStep

/-- The name that a step makes a secret under, or on whose secret it is done. -/
def name : VaultStep → String
  | insert name _ | use name _ => name

/-- Whether a step makes a new secret under a name. -/
def makes (name : String) : VaultStep → Bool
  | insert other bytes => other == name && bytes.length == 32
  | use _ _ => false

/-- Whether a step erases the secret under a name. -/
def erases (name : String) : VaultStep → Bool
  | insert _ _ => false
  | use other step => other == name && step.erases

end VaultStep

namespace Vault

variable (vault : Vault) (name other : String)

/-! ## What one step does to a name -/

theorem secret?_cons (secret : RootSecret) : secret? ((other, secret) :: vault) name =
    if other = name then some secret else vault.secret? name := by
  by_cases same : other = name
  · rw [if_pos same, secret?, same, List.lookup_cons_self]
  · have apart : (name == other) = false := beq_eq_false_iff_ne.2 (Ne.symm same)
    rw [if_neg same, secret?, List.lookup_cons, apart]
    rfl

/-- An erasure takes the bytes of one name, and the name stays. -/
theorem secret?_erase : (vault.erase other).secret? name =
    if other = name then (vault.secret? name).map fun _ => .erased else vault.secret? name := by
  induction vault with
  | nil => simp [erase, secret?]
  | cons entry rest ih =>
    obtain ⟨key, secret⟩ := entry
    have erased : erase ((key, secret) :: rest) other =
        (key, if key = other then .erased else secret) :: erase rest other := rfl
    rw [erased, secret?_cons, secret?_cons, ih]
    by_cases here : key = name
    · subst here
      by_cases same : key = other
      · simp [same]
      · simp [same, Ne.symm same]
    · simp [here]

theorem after_of_erases {step : SecretStep} (erases : step.erases = true) :
    vault.after other step = vault.erase other := by
  cases step <;> first | rfl | cases erases

theorem after_of_not_erases {step : SecretStep} (keeps : step.erases = false) :
    vault.after other step = vault := by
  cases step <;> first | rfl | cases keeps

theorem insert_of_size {bytes : Bytes} (size : bytes.length = 32) : ∃ secret : RootSecret,
    secret.bytes = bytes ∧ vault.insert other bytes = (.ok .nothing, (other, secret) :: vault) := by
  obtain ⟨block, found⟩ := Option.ne_none_iff_exists'.1
    (mt (Block.ofBytes?_eq_none_iff bytes).1 (not_not_intro size))
  refine ⟨⟨block⟩, Block.toList_of_ofBytes? found, ?_⟩
  simp only [insert, RootSecret.ofBytes, found]

/-- Bytes of another size make no secret, and an earlier one under the name stays. -/
theorem insert_of_size_ne {bytes : Bytes} (size : bytes.length ≠ 32) :
    vault.insert other bytes = (.error (.secretSize bytes.length), vault) := by
  simp only [insert, RootSecret.ofBytes, (Block.ofBytes?_eq_none_iff bytes).2 size]

/-! ## What one step does to the bytes of a name -/

/-- The bytes that a name holds. -/
def bytes? : Option Bytes := (vault.secret? name).map RootSecret.bytes

theorem bytes?_insert (bytes : Bytes) : (vault.insert other bytes).2.bytes? name =
    if (VaultStep.insert other bytes).makes name then some bytes else vault.bytes? name := by
  by_cases size : bytes.length = 32
  · obtain ⟨secret, rfl, inserted⟩ := vault.insert_of_size other size
    rw [inserted, bytes?, secret?_cons]
    by_cases same : other = name
    · simp [VaultStep.makes, same]
    · simp [VaultStep.makes, same, bytes?]
  · rw [insert_of_size_ne vault other size]
    simp [VaultStep.makes, size]

/-- Nothing but an erasure changes the bytes of a secret in use. -/
theorem bytes?_use (step : SecretStep) : (vault.use other step).2.bytes? name =
    if (VaultStep.use other step).erases name then (vault.bytes? name).map fun _ => RootSecret.zeros
    else vault.bytes? name := by
  cases found : vault.secret? other with
  | none =>
    -- There is nothing under the name, and nothing is what it goes on to hold.
    simp only [use, found]
    by_cases same : other = name
    · subst same
      simp [bytes?, found]
    · simp [VaultStep.erases, same]
  | some secret =>
    simp only [use, found]
    cases erases : step.erases with
    | false =>
      rw [after_of_not_erases vault other erases]
      simp [VaultStep.erases, erases]
    | true =>
      rw [after_of_erases vault other erases, bytes?, secret?_erase]
      by_cases same : other = name
      · simp [VaultStep.erases, erases, same, bytes?, Function.comp_def, RootSecret.bytes_erased]
      · simp [VaultStep.erases, same, bytes?]

/-- A step changes what a name holds only if it makes a secret under the name or erases the one that
is there. -/
theorem bytes?_advance (step : VaultStep) (now : Bytes) :
    (vault.advance step).2.bytes? name = some now ↔
      if step.makes name then step = .insert name now
      else ∃ held, vault.bytes? name = some held ∧
        now = if step.erases name then RootSecret.zeros else held := by
  cases step with
  | insert other bytes =>
    rw [advance, bytes?_insert]
    by_cases makes : (VaultStep.insert other bytes).makes name
    · obtain ⟨rfl, -⟩ : other = name ∧ bytes.length = 32 := by simpa [VaultStep.makes] using makes
      simp [makes]
    · simp [makes, VaultStep.erases, eq_comm]
  | use other step =>
    rw [advance, bytes?_use]
    cases held : vault.bytes? name with
    | none => simp [VaultStep.makes]
    | some bytes =>
      by_cases erases : (VaultStep.use other step).erases name
      · simp [erases, VaultStep.makes, eq_comm]
      · simp [erases, VaultStep.makes, eq_comm]

/-! ## What the steps so far say -/

section

variable {history since : List VaultStep} {step : VaultStep} {name : String} {bytes now : Bytes}

/-- A name had its last secret made of these bytes, and these are the steps since then. -/
structure Made (history : List VaultStep) (name : String) (bytes : Bytes) (since : List VaultStep) :
    Prop where
  split : ∃ before, history = before ++ .insert name bytes :: since
  size : bytes.length = 32
  last : ∀ step ∈ since, step.makes name = false

/-- What some steps leave of the bytes that a secret was made of. -/
def left (name : String) (bytes : Bytes) (since : List VaultStep) : Bytes :=
  if since.any (·.erases name) then RootSecret.zeros else bytes

/-- The bytes that a name holds by the steps so far. -/
def Holds (history : List VaultStep) (name : String) (now : Bytes) : Prop :=
  ∃ bytes since, Made history name bytes since ∧ now = left name bytes since

theorem left_snoc : left name bytes (since ++ [step]) =
    if step.erases name then RootSecret.zeros else left name bytes since := by
  simp only [left, List.any_append, List.any_cons, List.any_nil, Bool.or_false]
  cases step.erases name <;> simp

theorem not_holds_nil : ¬Holds [] name now := by
  rintro ⟨bytes, since, ⟨⟨before, split⟩, -, -⟩, -⟩
  simp at split

/-- The last step made the secret, or it is one more of the steps since then. -/
theorem made_snoc : Made (history ++ [step]) name bytes since ↔
    (step = .insert name bytes ∧ bytes.length = 32 ∧ since = []) ∨
      step.makes name = false ∧ ∃ earlier, since = earlier ++ [step] ∧
        Made history name bytes earlier := by
  constructor
  · rintro ⟨⟨before, split⟩, size, last⟩
    obtain rfl | ⟨earlier, latest, rfl⟩ := List.eq_nil_or_concat since
    · exact .inl ⟨(List.append_singleton_inj.1 split).2, size, rfl⟩
    · rw [List.concat_eq_append] at split last ⊢
      rw [← List.cons_append, ← List.append_assoc] at split
      obtain ⟨rfl, rfl⟩ := List.append_singleton_inj.1 split
      obtain ⟨last, keeps⟩ := List.forall_mem_append.1 last
      exact .inr ⟨keeps step (List.mem_singleton_self step), earlier, rfl, ⟨before, rfl⟩, size,
        last⟩
  · rintro (⟨rfl, size, rfl⟩ | ⟨keeps, earlier, rfl, ⟨before, rfl⟩, size, last⟩)
    · exact ⟨⟨history, rfl⟩, size, List.forall_mem_nil _⟩
    · refine ⟨⟨before, by simp⟩, size, List.forall_mem_append.2 ⟨last, ?_⟩⟩
      simpa using keeps

/-- What the last step adds to a history is what a step does to a vault (`bytes?_advance`). -/
theorem holds_snoc : Holds (history ++ [step]) name now ↔
    if step.makes name then step = .insert name now
    else ∃ held, Holds history name held ∧
      now = if step.erases name then RootSecret.zeros else held := by
  simp only [Holds, made_snoc]
  cases makes : step.makes name with
  | true =>
    have size : ∀ bytes, step = .insert name bytes → bytes.length = 32 := by
      rintro bytes rfl
      simpa [VaultStep.makes] using makes
    constructor
    · rintro ⟨bytes, since, ⟨rfl, -, rfl⟩ | ⟨⟨⟩, -⟩, rfl⟩
      rfl
    · intro made
      exact ⟨now, [], .inl ⟨made, size now made, rfl⟩, rfl⟩
  | false =>
    constructor
    · rintro ⟨bytes, since, ⟨rfl, size, -⟩ | ⟨-, earlier, rfl, made⟩, rfl⟩
      · simp [VaultStep.makes, size] at makes
      · exact ⟨_, ⟨bytes, earlier, made, rfl⟩, left_snoc⟩
    · rintro ⟨held, ⟨bytes, earlier, made, rfl⟩, rfl⟩
      exact ⟨bytes, earlier ++ [step], .inr ⟨rfl, earlier, rfl, made⟩, left_snoc.symm⟩

end

/-! ## Runs -/

/-- The vault that some steps lead to. -/
def reached (history : List VaultStep) : Vault := (play [] history).2

theorem play_append (vault : Vault) (history others : List VaultStep) :
    vault.play (history ++ others) =
      ((vault.play history).1 ++ ((vault.play history).2.play others).1,
        ((vault.play history).2.play others).2) := by
  induction history generalizing vault with
  | nil => rfl
  | cons step rest ih => simp [play, ih]

theorem length_play (vault : Vault) (history : List VaultStep) :
    (vault.play history).1.length = history.length := by
  induction history generalizing vault with
  | nil => rfl
  | cons step rest ih => simp [play, ih]

theorem reached_snoc (history : List VaultStep) (step : VaultStep) :
    reached (history ++ [step]) = ((reached history).advance step).2 := by
  rw [reached, play_append]
  rfl

/-- At the end of every history, a name of the vault holds what the steps say. -/
theorem bytes?_reached (history : List VaultStep) (name : String) (now : Bytes) :
    (reached history).bytes? name = some now ↔ Holds history name now := by
  induction history using List.reverseRecOn generalizing now with
  | nil => exact iff_of_false nofun not_holds_nil
  | append_singleton history step ih => simp only [reached_snoc, bytes?_advance, holds_snoc, ih]

/-! ## Answers -/

/-- What a step answers after a history. -/
def told (history : List VaultStep) (step : VaultStep) : Except Error Answer :=
  ((reached history).advance step).1

/-- The answer to a step is decided by the steps in front of it. -/
theorem getElem?_play (history others : List VaultStep) (step : VaultStep) :
    (play [] (history ++ step :: others)).1[history.length]? = some (told history step) := by
  rw [play_append, List.getElem?_append_right (Nat.le_of_eq (length_play [] history)), length_play,
    Nat.sub_self]
  rfl

section

variable {history : List VaultStep} {name other : String} {now now' : Bytes}

theorem Holds.secret? (h : Holds history name now) : ∃ secret : RootSecret,
    (reached history).secret? name = some secret ∧ secret.bytes = now :=
  Option.map_eq_some_iff.1 ((bytes?_reached history name now).2 h)

theorem Holds.length_eq (h : Holds history name now) : now.length = 32 := by
  obtain ⟨secret, -, rfl⟩ := h.secret?
  exact secret.length_bytes

theorem told_use {secret : RootSecret} (found : (reached history).secret? name = some secret)
    (step : SecretStep) : told history (.use name step) = (reached history).answer secret step := by
  simp only [told, advance, use, found]

/-- A comparison sees the bytes of both secrets as they are at that point. -/
theorem Holds.compared (h : Holds history name now) (h' : Holds history other now') :
    told history (.use name (.equals other)) = .ok (.flag (now = now')) ∧
      told history (.use name (.differs other)) = .ok (.flag (now ≠ now')) := by
  obtain ⟨secret, found, rfl⟩ := h.secret?
  obtain ⟨otherSecret, otherFound, rfl⟩ := h'.secret?
  have compared : answer.compare (reached history) secret other =
      .ok (decide (secret.bytes = otherSecret.bytes)) := by
    simp only [answer.compare, otherFound, RootSecret.beq_eq_decide_bytes]
  rw [told_use found, told_use found, answer, answer, compared]
  exact ⟨rfl, by simp [Except.map]⟩

/-- Once erased, a secret holds zeros until another is made under its name. -/
theorem Made.holds_of_erased {bytes : Bytes} {since : List VaultStep}
    (h : Made history name bytes since) (erased : since.any (·.erases name)) :
    Holds history name RootSecret.zeros := ⟨bytes, since, h, (if_pos erased).symm⟩

end

theorem reached_snoc_of_not_erases (history : List VaultStep) (name : String) {step : SecretStep}
    (keeps : step.erases = false) : reached (history ++ [.use name step]) = reached history := by
  rw [reached_snoc, advance, use]
  cases (reached history).secret? name with
  | none => rfl
  | some secret => exact after_of_not_erases _ name keeps

/-- A step touches the one name that it is about. -/
theorem secret?_advance_of_ne (vault : Vault) {step : VaultStep} {name : String}
    (apart : step.name ≠ name) : (vault.advance step).2.secret? name = vault.secret? name := by
  cases step with
  | insert other bytes =>
    by_cases size : bytes.length = 32
    · obtain ⟨secret, -, inserted⟩ := vault.insert_of_size other size
      rw [advance, inserted, secret?_cons]
      exact if_neg apart
    · rw [advance, insert_of_size_ne vault other size]
  | use other step =>
    rw [advance, use]
    cases found : vault.secret? other with
    | none => rfl
    | some secret =>
      cases erases : step.erases with
      | false => rw [after_of_not_erases vault other erases]
      | true =>
        rw [after_of_erases vault other erases, secret?_erase]
        exact if_neg apart

/-! ## The life of every secret -/

/-- What can be said of the secrets of a vault after any steps. -/
structure Lifecycle (history : List VaultStep) : Prop where
  /-- In every run that begins with this history the next step answers as it does here. -/
  point : ∀ step others,
    (play [] (history ++ step :: others)).1[history.length]? = some (told history step)
  held : ∀ name now, (reached history).bytes? name = some now ↔ Holds history name now
  size : ∀ name now, Holds history name now → now.length = 32
  made : ∀ name bytes, bytes.length = 32 → told history (.insert name bytes) = .ok .nothing
  refused : ∀ name bytes, bytes.length ≠ 32 → (reached history).advance (.insert name bytes) =
    (.error (.secretSize bytes.length), reached history)
  /-- A step on one secret, or one that makes it, leaves every other secret alone. -/
  apart : ∀ step name, step.name ≠ name →
    (reached (history ++ [step])).secret? name = (reached history).secret? name
  /-- Only the three steps that erase a secret change anything. -/
  kept : ∀ name step, step.erases = false → reached (history ++ [.use name step]) = reached history
  shown : ∀ name now, Holds history name now →
    told history (.use name .reveal) = .ok (.bytes now) ∧
      told history (.use name .useInBlock) = .ok (.bytes now)
  compared : ∀ name other now now', Holds history name now → Holds history other now' →
    told history (.use name (.equals other)) = .ok (.flag (now = now')) ∧
      told history (.use name (.differs other)) = .ok (.flag (now ≠ now'))
  /-- Two secrets that are both erased are equal, whatever they were made of. -/
  alike : ∀ name other bytes bytes' since since',
    Made history name bytes since → since.any (·.erases name) →
    Made history other bytes' since' → since'.any (·.erases other) →
    told history (.use name (.equals other)) = .ok (.flag true)
  blank : ∀ name now, Holds history name now →
    told history (.use name .isBlank) = .ok (.flag (now.all (· == 0)))
  derived : ∀ name (secret : RootSecret) label salt, Holds history name secret.bytes →
    (∀ length, told history (.use name (.key label length salt)) =
      (Key.ofLength secret label length salt).map .bytes) ∧
    told history (.use name (.uuid label salt)) = .ok (.text (Key.uuid secret label salt).text)
  /-- The other steps answer the same for all bytes. -/
  redacted : ∀ name now, Holds history name now →
    told history (.use name .text) = .ok (.text RootSecret.redacted) ∧
    told history (.use name .hash) = .error .unhashable ∧
    told history (.use name .copy) = .error .unserializable ∧
    (∀ bytes, told history (.use name (.equalsBytes bytes)) = .ok (.flag false)) ∧
    told history (.use name .erase) = .ok .nothing ∧
    told history (.use name .failInBlock) = .ok (.text "propagated")
  unknown : ∀ name step, (∀ now, ¬Holds history name now) →
    (reached history).advance (.use name step) = (.error (.inapplicable name), reached history)

/-- What every step of every history answers, and what it leaves. -/
theorem lifecycle (history : List VaultStep) : Lifecycle history where
  point step others := getElem?_play history others step
  held := bytes?_reached history
  size _ _ holds := holds.length_eq
  made name bytes size := by
    obtain ⟨secret, -, inserted⟩ := (reached history).insert_of_size name size
    exact congrArg Prod.fst inserted
  refused name bytes size := insert_of_size_ne _ name size
  apart step name apart := by
    rw [reached_snoc]
    exact secret?_advance_of_ne _ apart
  kept name step keeps := reached_snoc_of_not_erases history name keeps
  shown name now holds := by
    obtain ⟨secret, found, rfl⟩ := holds.secret?
    exact ⟨told_use found _, told_use found _⟩
  compared _ _ _ _ holds holds' := holds.compared holds'
  alike name other bytes bytes' since since' made erased made' erased' :=
    ((made.holds_of_erased erased).compared (made'.holds_of_erased erased')).1
  blank name now holds := by
    obtain ⟨secret, found, rfl⟩ := holds.secret?
    rw [← RootSecret.isBlank_eq_all]
    exact told_use found .isBlank
  derived name secret label salt holds := by
    obtain ⟨own, found, same⟩ := holds.secret?
    obtain rfl := RootSecret.bytes_inj.1 same
    exact ⟨fun length => told_use found _, told_use found _⟩
  redacted name now holds := by
    obtain ⟨secret, found, -⟩ := holds.secret?
    exact ⟨told_use found _, told_use found _, told_use found _, fun bytes => told_use found _,
      told_use found _, told_use found _⟩
  unknown name step absent := by
    have nothing : (reached history).secret? name = none := by
      refine Option.eq_none_iff_forall_not_mem.2 fun secret found => absent secret.bytes ?_
      exact (bytes?_reached history name _).1 (Option.map_eq_some_iff.2 ⟨secret, found, rfl⟩)
    simp only [advance, use, nothing]

/-- Two blocks erase two secrets one after the other, and after the second block they are equal. -/
example : (play [] [.insert "a" (List.replicate 32 7), .insert "b" (List.replicate 32 9),
      .use "a" .useInBlock, .use "a" (.equals "b"), .use "b" .failInBlock,
      .use "a" (.equals "b")]).1 =
    [.ok .nothing, .ok .nothing, .ok (.bytes (List.replicate 32 7)), .ok (.flag false),
      .ok (.text "propagated"), .ok (.flag true)] := by decide +kernel

end Vault

end DeviceKeys
