import DeviceKeys.Proofs.KeyCommands
import DeviceKeys.Proofs.KeyStream

/-!
# One key in three shapes

The same bytes are given raw, as hexadecimal text, or, where there are sixteen of them, as a UUID.
The text loses nothing. The UUID loses six bits, which stand in two digits: the thirteenth is the
version, and of the seventeenth the two high bits are the variant (`Uuid.Stamped`).

A keeper gives all three by asking for its secret and then computing, so it makes the same calls for
each of them, meets the same failures and leaves the same machine, up to a line of the log.
-/

set_option autoImplicit false

namespace DeviceKeys

/-! ## Hexadecimal digits -/

namespace Bytes

theorem ofHex?_hex (bytes : Bytes) : ofHex? (hex bytes) = some bytes := by
  rw [ofHex?, hex, String.toList_ofList, ofHexDigits?_hexDigits]

theorem nibble_mem : ∀ n < 16, nibble n ∈ "0123456789abcdef".toList := by decide

theorem mem_hexDigits {bytes : Bytes} {c : Char} (h : c ∈ hexDigits bytes) :
    c ∈ "0123456789abcdef".toList := by
  obtain ⟨b, -, digit⟩ := List.mem_flatMap.1 h
  have bound := b.toNat_lt
  simp only [List.mem_cons, List.not_mem_nil, or_false] at digit
  rcases digit with rfl | rfl
  · exact nibble_mem _ (by omega)
  · exact nibble_mem _ (by omega)

/-- The digits of a byte stand at twice its place and behind it. -/
theorem getElem?_hexDigits (bytes : Bytes) (i : Nat) :
    (hexDigits bytes)[2 * i]? = bytes[i]?.map (fun b => nibble (b.toNat / 16)) ∧
      (hexDigits bytes)[2 * i + 1]? = bytes[i]?.map (fun b => nibble (b.toNat % 16)) := by
  induction bytes generalizing i with
  | nil => exact ⟨rfl, rfl⟩
  | cons b rest ih =>
    have digits : hexDigits (b :: rest) =
        nibble (b.toNat / 16) :: nibble (b.toNat % 16) :: hexDigits rest := rfl
    rw [digits]
    cases i with
    | zero => exact ⟨rfl, rfl⟩
    | succ i => exact ih i

end Bytes

/-! ## UUIDs -/

namespace Uuid

/-- Of a number the low bits are kept, and one bit above them is set. -/
theorem and_or_two_pow {low high : Nat} (above : low ≤ high) (n : Nat) :
    (n &&& (Nat.pow 2 low - 1)) ||| Nat.pow 2 high = Nat.pow 2 high + n % Nat.pow 2 low := by
  have small : n % 2 ^ low < 2 ^ high :=
    Nat.lt_of_lt_of_le (Nat.mod_lt _ (Nat.two_pow_pos low)) (Nat.pow_le_pow_right (by omega) above)
  have apart := Nat.two_pow_add_eq_or_of_lt small 1
  rw [Nat.mul_one] at apart
  show (n &&& (2 ^ low - 1)) ||| 2 ^ high = 2 ^ high + n % 2 ^ low
  rw [Nat.and_two_pow_sub_one_eq_mod, Nat.or_comm, apart]

theorem toNat_setVersion (b : UInt8) : (setVersion b).toNat = 64 + b.toNat % 16 := by
  rw [setVersion, UInt8.toNat_or, UInt8.toNat_and]
  exact and_or_two_pow (show 4 ≤ 6 by decide) b.toNat

theorem toNat_setVariant (b : UInt8) : (setVariant b).toNat = 128 + b.toNat % 64 := by
  rw [setVariant, UInt8.toNat_or, UInt8.toNat_and]
  exact and_or_two_pow (show 6 ≤ 7 by decide) b.toNat

/-- The groups of the text hold all digits, in order. -/
theorem append_groups (digits : List Char) :
    digits.take 8 ++ ((digits.drop 8).take 4 ++ ((digits.drop 12).take 4 ++
      ((digits.drop 16).take 4 ++ digits.drop 20))) = digits := by
  have joined : ∀ i n, (digits.drop i).take n ++ digits.drop (i + n) = digits.drop i := by
    intro i n
    rw [← List.drop_drop, List.take_append_drop]
  rw [joined 16 4, joined 12 4, joined 8 4, List.take_append_drop]

/-- The digits of a UUID are what is left without its hyphens. -/
theorem filter_hyphenate {digits : List Char} (h : ∀ c ∈ digits, c ≠ '-') :
    (hyphenate digits).filter (· != '-') = digits := by
  have taken : (hyphenate digits).filter (· != '-') = digits.filter (· != '-') := by
    refine Eq.trans ?_ (congrArg (List.filter (· != '-')) (append_groups digits))
    simp [hyphenate]
  rw [taken, List.filter_eq_self]
  exact fun c mem => bne_iff_ne.2 (h c mem)

/-- Lowercase digits in groups of 8, 4, 4, 4 and 12 with a hyphen in between. -/
def Canonical (digits : List Char) (text : String) : Prop :=
  (∀ c ∈ digits, c ∈ "0123456789abcdef".toList) ∧ ∃ groups : List (List Char),
    groups.map List.length = [8, 4, 4, 4, 12] ∧ groups.flatten = digits ∧
      text.toList = ['-'].intercalate groups

section

variable (u : Uuid)

theorem toList_text : u.text.toList = hyphenate (Bytes.hexDigits u.bytes.toList) :=
  String.toList_ofList

/-- The text of a UUID has the five groups of the canonical form. -/
theorem canonical_text : Canonical (Bytes.hexDigits u.bytes.toList) u.text := by
  refine ⟨fun c mem => Bytes.mem_hexDigits mem, ?_⟩
  have long : (Bytes.hexDigits u.bytes.toList).length = 32 := by
    rw [Bytes.length_hexDigits, Vector.length_toList]
  rw [toList_text]
  generalize Bytes.hexDigits u.bytes.toList = ds at *
  refine ⟨[ds.take 8, (ds.drop 8).take 4, (ds.drop 12).take 4, (ds.drop 16).take 4, ds.drop 20],
    ?_, ?_, ?_⟩
  · simp [long]
  · simp only [List.flatten_cons, List.flatten_nil, List.append_nil]
    exact append_groups ds
  · simp [hyphenate, List.intercalate]

/-- Reading the text gives the UUID that was written. -/
theorem ofText?_text : ofText? u.text = some u := by
  have digits : u.text.toList.filter (· != '-') = Bytes.hexDigits u.bytes.toList := by
    rw [toList_text]
    refine filter_hyphenate fun c mem => ?_
    rintro rfl
    exact absurd (Bytes.mem_hexDigits mem) (by decide)
  have same : (⟨⟨u.bytes.toList.toArray, by simp⟩⟩ : Uuid) = u := rfl
  rw [ofText?, digits, Bytes.ofHexDigits?_hexDigits]
  simp [same]

end

/-- The bytes of a key with the version and the variant in them. -/
def stamp (key : Bytes) : Bytes := (key.modify 6 setVersion).modify 8 setVariant

/-- Two bytes are stamped, and all others stay. -/
theorem getElem?_stamp (key : Bytes) (i : Nat) : (stamp key)[i]? = key[i]?.map fun b =>
    if i = 6 then setVersion b else if i = 8 then setVariant b else b := by
  rw [stamp, List.getElem?_modify, List.getElem?_modify]
  by_cases version : i = 6
  · subst version
    simp
  · by_cases variant : i = 8
    · subst variant
      simp
    · simp [version, variant, Ne.symm version, Ne.symm variant]

theorem bytes_ofRandom (raw : Vector UInt8 16) :
    (ofRandom raw).bytes.toList = stamp raw.toList := by
  apply List.ext_getElem?
  intro i
  rw [getElem?_stamp, ofRandom]
  simp

/-- How the text of a UUID stands to the key that it is made of. -/
structure Stamped (key : Bytes) (text : String) : Prop where
  /-- The digits are those of the key but for two: the thirteenth is the version, and of the
  seventeenth the two high bits are the variant, so that it is one of four. -/
  digits : ∃ digits, Canonical digits text ∧ Bytes.ofHexDigits? digits = some (stamp key) ∧
    (∀ i, i ≠ 12 → i ≠ 16 → digits[i]? = (Bytes.hex key).toList[i]?) ∧
    digits[12]? = some '4' ∧
    ∃ n < 16, (Bytes.hex key).toList[16]? = some (Bytes.nibble n) ∧
      digits[16]? = some (Bytes.nibble (8 + n % 4)) ∧
      Bytes.nibble (8 + n % 4) ∈ ['8', '9', 'a', 'b']
  /-- Reading it back gives the stamped bytes. -/
  back : (ofText? text).map (fun u => u.bytes.toList) = some (stamp key)

/-- The low half of a byte is never stamped, and the high half of two bytes only. -/
theorem getElem?_hexDigits_stamp (key : Bytes) {i : Nat} (version : i ≠ 12) (variant : i ≠ 16) :
    (Bytes.hexDigits (stamp key))[i]? = (Bytes.hexDigits key)[i]? := by
  have half : i = 2 * (i / 2) ∨ i = 2 * (i / 2) + 1 := by omega
  generalize i / 2 = k at half
  rcases half with rfl | rfl
  · have apart : k ≠ 6 ∧ k ≠ 8 := by omega
    rw [(Bytes.getElem?_hexDigits _ k).1, (Bytes.getElem?_hexDigits _ k).1, getElem?_stamp]
    simp [apart]
  · have low : ∀ b : UInt8, (if k = 6 then setVersion b else if k = 8 then setVariant b
        else b).toNat % 16 = b.toNat % 16 := by
      intro b
      split
      · rw [toNat_setVersion]
        omega
      · split
        · rw [toNat_setVariant]
          omega
        · rfl
    rw [(Bytes.getElem?_hexDigits _ k).2, (Bytes.getElem?_hexDigits _ k).2, getElem?_stamp,
      Option.map_map]
    exact Option.map_congr fun b _ => congrArg Bytes.nibble (low b)

theorem getElem?_hexDigits_version (key : Bytes) :
    (Bytes.hexDigits (stamp key))[12]? = key[6]?.map fun _ => '4' := by
  have high : ∀ b, Bytes.nibble ((setVersion b).toNat / 16) = '4' := by
    intro b
    have four : (setVersion b).toNat / 16 = 4 := by
      rw [toNat_setVersion]
      omega
    rw [four]
    rfl
  rw [(Bytes.getElem?_hexDigits _ 6).1, getElem?_stamp, Option.map_map]
  exact Option.map_congr fun b _ => high b

/-- Of the old digit the two low bits are left. -/
theorem getElem?_hexDigits_variant (key : Bytes) :
    (Bytes.hexDigits (stamp key))[16]? =
      key[8]?.map fun b => Bytes.nibble (8 + b.toNat / 16 % 4) := by
  have high : ∀ b, (setVariant b).toNat / 16 = 8 + b.toNat / 16 % 4 := by
    intro b
    rw [toNat_setVariant]
    omega
  rw [(Bytes.getElem?_hexDigits _ 8).1, getElem?_stamp, Option.map_map]
  exact Option.map_congr fun b _ => congrArg Bytes.nibble (high b)

theorem nibble_variant_mem (n : Nat) : Bytes.nibble (8 + n % 4) ∈ ['8', '9', 'a', 'b'] := by
  have four : ∀ k < 4, Bytes.nibble (8 + k) ∈ ['8', '9', 'a', 'b'] := by decide
  exact four _ (Nat.mod_lt n (by decide))

/-- The text of a stamped UUID, digit by digit. -/
theorem stamped (raw : Vector UInt8 16) : Stamped raw.toList (ofRandom raw).text where
  digits := by
    have old : raw.toList[8]? = some raw[8] := by simp
    have bound := raw[8].toNat_lt
    have canonical := canonical_text (ofRandom raw)
    rw [bytes_ofRandom] at canonical
    rw [Bytes.hex, String.toList_ofList]
    refine ⟨_, canonical, Bytes.ofHexDigits?_hexDigits _, ?_, ?_, ?_⟩
    · exact fun i version variant => getElem?_hexDigits_stamp _ version variant
    · rw [getElem?_hexDigits_version]
      simp
    · refine ⟨raw[8].toNat / 16, by omega, ?_, ?_, nibble_variant_mem _⟩
      · rw [(Bytes.getElem?_hexDigits raw.toList 8).1, old]
        rfl
      · rw [getElem?_hexDigits_variant, old]
        rfl
  back := by
    rw [ofText?_text, Option.map_some, bytes_ofRandom]

/-- Where every bit is set, the stamps take the second bit of the seventeenth digit away. -/
example : (ofRandom (.replicate 16 0xFF)).text = "ffffffff-ffff-4fff-bfff-ffffffffffff" := by
  decide +kernel

end Uuid

/-! ## Attempts in step -/

/-- Two results match if both are the same failure, or if both are values that are related. -/
def Matching {α β : Type} (related : α → β → Prop) : Except Error α → Except Error β → Prop
  | .ok a, .ok b => related a b
  | .error err, .error err' => err = err'
  | _, _ => False

/-- Two attempts make the same calls with the same answers, come to results that match, and
leave the same machine, up to its log. -/
structure InStep {α β : Type} (related : α → β → Prop) (x : Attempt Error α) (y : Attempt Error β)
    (m : Machine) : Prop where
  exchanges : x.run.exchanges m = y.run.exchanges m
  result : Matching related (x.run.run m).1 (y.run.run m).1
  left : ∃ log, (y.run.run m).2 = { (x.run.run m).2 with log }

/-- What goes on in step behind the same beginning is in step from there. -/
theorem InStep.bind {α β γ : Type} {related : α → β → Prop} {f : γ → Attempt Error α}
    {g : γ → Attempt Error β} (x : Attempt Error γ)
    (h : ∀ value m, InStep related (f value) (g value) m) (m : Machine) :
    InStep related (x >>= f) (x >>= g) m where
  exchanges := by
    refine (Program.excerpt_attempt_bind _ _ _ m).trans ?_
    refine Eq.trans ?_ (Program.excerpt_attempt_bind _ _ _ m).symm
    cases (x.run.run m).1 with
    | error err => rfl
    | ok value => exact congrArg (_ ++ ·) (h value _).exchanges
  result := by
    rw [Program.run_attempt_bind, Program.run_attempt_bind]
    cases (x.run.run m).1 with
    | error err => exact rfl
    | ok value => exact (h value _).result
  left := by
    rw [Program.run_attempt_bind, Program.run_attempt_bind]
    cases (x.run.run m).1 with
    | error err => exact ⟨_, rfl⟩
    | ok value => exact (h value _).left

/-! ## Keys -/

/-- The text of a key is its digits, and reads back as the key. -/
def Spelled (key : Bytes) (text : String) : Prop :=
  text = Bytes.hex key ∧ Bytes.ofHex? text = some key

section

variable (label : Label)

namespace Key

variable (secret : RootSecret) (salt : Option Bytes)

theorem matching_hexOfLength (length : Int) : Matching Spelled (ofLength secret label length salt)
    (hexOfLength secret label length salt) := by
  unfold hexOfLength
  cases ofLength secret label length salt with
  | error err => exact rfl
  | ok key => exact ⟨rfl, Bytes.ofHex?_hex key⟩

theorem stamped_uuid : Uuid.Stamped (material secret label 16 salt) (uuid secret label salt).text :=
  Uuid.stamped ⟨(material secret label uuidSize salt).toArray, by simp [material, uuidSize]⟩

end Key

namespace Keeper

variable (keeper : Keeper) (m : Machine)

/-- Bytes and digits of a key are asked for in the same way, and fail in the same way. -/
theorem inStep_hexKey (length : Int) :
    InStep Spelled (keeper.key label length) (keeper.hexKey label length) m := by
  refine InStep.bind keeper.secret (fun secret m => ?_) m
  show InStep Spelled (Program.ofExcept (Key.ofLength secret label length _) >>= _)
    (Program.ofExcept ((Key.ofLength secret label length _).map Bytes.hex)) m
  cases Key.ofLength secret label length keeper.settings.salt with
  | error err => exact ⟨rfl, rfl, _, rfl⟩
  | ok key => exact ⟨rfl, ⟨rfl, Bytes.ofHex?_hex key⟩, _, rfl⟩

theorem inStep_uuid : InStep (fun key uuid => Uuid.Stamped key uuid.text) (keeper.key label 16)
    (keeper.uuid label) m := by
  refine InStep.bind keeper.secret (fun secret m => ?_) m
  have sixteen : Key.ofLength secret label 16 keeper.settings.salt = _ :=
    Key.ofLength_of_fits secret label _ (show 16 ≤ Key.longest by decide)
  rw [sixteen]
  exact ⟨rfl, Key.stamped_uuid label secret _, _, rfl⟩

end Keeper

/-- The three shapes of the keys with one label. -/
structure KeyShapes : Prop where
  /-- The text is refused with the key and for the same reason, or gives it back. -/
  hex : ∀ secret salt length, Matching Spelled (Key.ofLength secret label length salt)
    (Key.hexOfLength secret label length salt)
  /-- No length up to 255 blocks is refused. -/
  given : ∀ secret salt (length : Nat), length ≤ 16320 →
    ∃ key, Key.ofLength secret label length salt = .ok key ∧ key.length = length
  /-- A UUID is that of the key of sixteen bytes, which there always is. -/
  uuid : ∀ secret salt, ∃ key, Key.ofLength secret label 16 salt = .ok key ∧ key.length = 16 ∧
    Uuid.Stamped key (Key.uuid secret label salt).text
  /-- The key of a keeper is that of the secret that it got at. -/
  keeperKey : ∀ (keeper : Keeper) (m : Machine) (length : Int),
    ((keeper.key label length).run.run m).1 = (keeper.secret.run.run m).1 >>= fun secret =>
      Key.ofLength secret label length keeper.settings.salt
  /-- A keeper gives both texts as it gives the key itself, whatever its device does. -/
  keeperHex : ∀ (keeper : Keeper) (m : Machine) (length : Int),
    InStep Spelled (keeper.key label length) (keeper.hexKey label length) m
  keeperUuid : ∀ (keeper : Keeper) (m : Machine),
    InStep (fun key uuid => Uuid.Stamped key uuid.text) (keeper.key label 16) (keeper.uuid label) m

/-- Both texts agree with the bytes of the key, and fail where there is none. -/
theorem keys_agree : KeyShapes label where
  hex secret salt length := Key.matching_hexOfLength label secret salt length
  given secret salt length fits :=
    ⟨_, Key.ofLength_of_fits secret label salt fits, Hkdf.length_expand _ _ _⟩
  uuid secret salt := by
    refine ⟨_, Key.ofLength_of_fits secret label salt (show 16 ≤ Key.longest by decide), ?_, ?_⟩
    · exact Hkdf.length_expand _ _ _
    · exact Key.stamped_uuid label secret salt
  keeperKey keeper m length := keeper.run_key label length m
  keeperHex keeper m length := keeper.inStep_hexKey label m length
  keeperUuid keeper m := keeper.inStep_uuid label m

end

end DeviceKeys
