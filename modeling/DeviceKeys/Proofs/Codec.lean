import DeviceKeys.Mailbox

/-!
# Requests as integers

A request on unbounded integers has one place where something can go wrong, the eight words of its
value. `Mailbox.Holds` says that they stand where they should and are words of thirty-two bits, and
that is all that reading a buffer depends on (`Mailbox.valueWords?_eq_some_iff`). A value comes back
from the buffer that was made for it; and a buffer that can be read comes back, word by word, from
the value that was read, up to the words that the tag decides.
-/

set_option autoImplicit false

namespace DeviceKeys

namespace Block

theorem toNat_wordOf (a b c d : UInt8) : (wordOf a b c d).toNat =
    a.toNat * 0x1000000 + b.toNat * 0x10000 + c.toNat * 0x100 + d.toNat := by
  have ha := a.toNat_lt
  have hb := b.toNat_lt
  have hc := c.toNat_lt
  have hd := d.toNat_lt
  refine UInt32.toNat_ofNat_of_lt' ?_
  rw [UInt32.size]
  omega

/-- The number of a word has the first of its four bytes highest. -/
theorem toNat_words (value : Block) {i : Nat} (h : i < 8) : value.words[i].toNat =
    value[4 * i].toNat * 0x1000000 + value[4 * i + 1].toNat * 0x10000 +
      value[4 * i + 2].toNat * 0x100 + value[4 * i + 3].toNat := by
  rw [words, Vector.getElem_ofFn, toNat_wordOf]

end Block

namespace Mailbox

/-! ## Places -/

section

variable {α : Type} (ofNat : Nat → α) (tag : α) (ws ws' : Vector α 8)

theorem getElem?_layout_value {i : Nat} (h : i < 8) :
    (layout ofNat tag ws).toList[7 + i]? = some ws[i] := by
  iterate 8
    rcases i with _ | i
    · rfl
  omega

/-- In front of the value and behind it, a request is the same for every value. -/
theorem getElem?_layout_frame {i : Nat} (h : i < 7 ∨ i = 15) :
    (layout ofNat tag ws).toList[i]? = (layout ofNat tag ws').toList[i]? := by
  rcases h with h | rfl
  · iterate 7
      rcases i with _ | i
      · rfl
    omega
  · rfl

end

/-! ## Words -/

/-- The words stand in the buffer where those of the value stand. -/
def Holds (buffer : List Int) (ws : Vector UInt32 8) : Prop :=
  ∀ i (h : i < 8), buffer[7 + i]? = some (Int.ofNat ws[i].toNat)

/-- Every place of the value is there, with a word of thirty-two bits in it. -/
def Fits (buffer : List Int) : Prop :=
  ∀ i, 7 ≤ i → i ≤ 14 → ∃ n, buffer[i]? = some n ∧ 0 ≤ n ∧ n ≤ 0xFFFFFFFF

theorem isWord_iff {n : Int} : isWord n = true ↔ 0 ≤ n ∧ n ≤ 0xFFFFFFFF := by
  simp only [isWord, Bool.and_eq_true, decide_eq_true_eq]
  omega

/-- To hold words at their places is to have their numbers in the cells from the seventh on. -/
theorem holds_iff_cells {buffer : List Int} {ws : Vector UInt32 8} :
    Holds buffer ws ↔
      (buffer.drop valueStart).take rowsPerRegion = ws.toList.map fun w => Int.ofNat w.toNat := by
  constructor
  · intro holds
    apply List.ext_getElem?
    intro i
    by_cases h : i < 8
    · simp [valueStart, rowsPerRegion, h, holds i h]
    · rw [List.getElem?_take, if_neg (show ¬i < rowsPerRegion from h)]
      simp [h]
  · intro same i h
    have cell := congrArg (·[i]?) same
    simpa [valueStart, rowsPerRegion, List.getElem?_take, h] using cell

/-- An integer that is a word is the number of the word that is made of it. -/
theorem ofNat_toNat_word {n : Int} (h : isWord n = true) :
    Int.ofNat (UInt32.ofNat n.toNat).toNat = n := by
  obtain ⟨least, most⟩ := isWord_iff.1 h
  have small : n.toNat < UInt32.size := by
    rw [UInt32.size]
    omega
  rw [UInt32.toNat_ofNat_of_lt' small]
  exact Int.toNat_of_nonneg least

theorem isWord_toNat (w : UInt32) : isWord (Int.ofNat w.toNat) = true := by
  have bound := w.toNat_lt
  rw [isWord_iff]
  simp only [Int.ofNat_eq_natCast]
  omega

/-- A buffer can be read if words stand in the places of the value, and gives those. -/
theorem valueWords?_eq_some_iff {buffer : List Int} {ws : Vector UInt32 8} :
    valueWords? buffer = some ws ↔ Holds buffer ws := by
  rw [holds_iff_cells]
  simp only [valueWords?]
  constructor
  · intro read
    split at read
    · next h =>
      obtain rfl := Option.some.inj read
      have back : ∀ n ∈ (buffer.drop valueStart).take rowsPerRegion,
          Int.ofNat (UInt32.ofNat n.toNat).toNat = n := by
        intro n mem
        exact ofNat_toNat_word (List.all_eq_true.1 h.2 n mem)
      show _ = (((buffer.drop valueStart).take rowsPerRegion).map fun n =>
        UInt32.ofNat n.toNat).map fun w => Int.ofNat w.toNat
      rw [List.map_map]
      exact ((List.map_congr_left back).trans (List.map_id _)).symm
    · cases read
  · intro same
    have fits : ((buffer.drop valueStart).take rowsPerRegion).length = rowsPerRegion ∧
        ((buffer.drop valueStart).take rowsPerRegion).all isWord = true := by
      rw [same]
      refine ⟨by simp [rowsPerRegion], List.all_eq_true.2 ?_⟩
      intro n mem
      obtain ⟨w, -, rfl⟩ := List.mem_map.1 mem
      exact isWord_toNat w
    have back : ((fun n : Int => UInt32.ofNat n.toNat) ∘ fun w : UInt32 => Int.ofNat w.toNat) =
        id := by
      funext w
      simp
    rw [dif_pos fits]
    refine congrArg some (Vector.toArray_inj.1 ?_)
    simp only [same, List.map_map, back, List.map_id]
    rfl

/-- Words that fit can be taken for the words of a value. -/
theorem fits_iff_holds {buffer : List Int} : Fits buffer ↔ ∃ ws, Holds buffer ws := by
  constructor
  · intro fits
    refine ⟨.ofFn fun i => UInt32.ofNat (buffer[7 + i.val]?.getD 0).toNat, ?_⟩
    intro i h
    obtain ⟨n, here, bounds⟩ := fits (7 + i) (by omega) (by omega)
    rw [Vector.getElem_ofFn, here, Option.getD_some, ofNat_toNat_word (isWord_iff.2 bounds)]
  · rintro ⟨ws, holds⟩ i least most
    obtain ⟨j, rfl⟩ := Nat.exists_eq_add_of_le least
    have small : j < 8 := by omega
    exact ⟨_, holds j small, isWord_iff.1 (isWord_toNat ws[j])⟩

/-- What stands in the places of the value is all that matters. -/
theorem Holds.congr {buffer buffer' : List Int} {ws : Vector UInt32 8} (h : Holds buffer ws)
    (same : ∀ i, 7 ≤ i → i ≤ 14 → buffer[i]? = buffer'[i]?) : Holds buffer' ws := by
  intro i small
  rw [← same (7 + i) (by omega) (by omega)]
  exact h i small

/-! ## Reading -/

/-- What is read are the bytes of the eight words, each with its highest byte first. -/
theorem decode?_eq_some_iff {buffer : List Int} {value : Bytes} :
    decode? buffer = some value ↔ ∃ ws, Holds buffer ws ∧ (Block.ofWords ws).toList = value := by
  simp only [decode?, Option.map_eq_some_iff, valueWords?_eq_some_iff]

theorem isSome_decode?_iff {buffer : List Int} : (decode? buffer).isSome ↔ Fits buffer := by
  rw [Option.isSome_iff_exists, fits_iff_holds]
  constructor
  · rintro ⟨value, read⟩
    obtain ⟨ws, holds, -⟩ := decode?_eq_some_iff.1 read
    exact ⟨ws, holds⟩
  · rintro ⟨ws, holds⟩
    exact ⟨_, decode?_eq_some_iff.2 ⟨ws, holds, rfl⟩⟩

theorem decode?_congr {buffer buffer' : List Int}
    (same : ∀ i, 7 ≤ i → i ≤ 14 → buffer[i]? = buffer'[i]?) : decode? buffer = decode? buffer' := by
  apply Option.ext
  intro value
  simp only [decode?_eq_some_iff]
  constructor
  · rintro ⟨ws, holds, read⟩
    exact ⟨ws, holds.congr same, read⟩
  · rintro ⟨ws, holds, read⟩
    exact ⟨ws, holds.congr fun i least most => (same i least most).symm, read⟩

/-! ## Writing -/

theorem encode_toList (tag : Int) (value : Block) :
    encode tag (some value.toList) = .ok (encode.frame tag value) := by
  simp only [encode, Block.ofBytes?_toList]

/-- A value of another size is refused, whatever the tag. -/
theorem encode_of_length_ne (tag : Int) {bytes : Bytes} (h : bytes.length ≠ 32) :
    encode tag (some bytes) = .error (.valueSize bytes.length) := by
  simp only [encode, (Block.ofBytes?_eq_none_iff bytes).2 h]

theorem length_frame (tag : Int) (value : Block) : (encode.frame tag value).length = 16 := by
  simp [encode.frame]

theorem holds_frame (tag : Int) (value : Block) : Holds (encode.frame tag value) value.words := by
  intro i h
  rw [encode.frame, getElem?_layout_value _ _ _ h, Vector.getElem_map]

/-- What was written into a frame is read out of it. -/
theorem decode?_frame (tag : Int) (value : Block) :
    decode? (encode.frame tag value) = some value.toList :=
  decode?_eq_some_iff.2 ⟨value.words, holds_frame tag value, by rw [Block.ofWords_words]⟩

/-! ## Both ways -/

/-- How requests are written as integers, and how values are read from integers. -/
structure Faithful : Prop where
  /-- A request has sixteen words, those of its value have the first byte highest, and the value can
  be read back. -/
  written : ∀ (tag : Int) (value : Block), ∃ buffer,
    encode tag (some value.toList) = .ok buffer ∧ buffer.length = 16 ∧ Fits buffer ∧
    (∀ (i : Nat) (h : i < 8), buffer[7 + i]? = some ((value[4 * i].toNat * 0x1000000 +
      value[4 * i + 1].toNat * 0x10000 + value[4 * i + 2].toNat * 0x100 +
      value[4 * i + 3].toNat : Nat) : Int)) ∧
    decode? buffer = some value.toList
  refused : ∀ (tag : Int) (bytes : Bytes), bytes.length ≠ 32 →
    encode tag (some bytes) = .error (.valueSize bytes.length)
  /-- A buffer of any length can be read exactly if words stand in the places of the value. -/
  readable : ∀ buffer, (decode? buffer).isSome ↔ Fits buffer
  indifferent : ∀ buffer buffer' : List Int, (∀ i, 7 ≤ i → i ≤ 14 → buffer[i]? = buffer'[i]?) →
    decode? buffer = decode? buffer'
  /-- The request for what was read has the same words in the places of the value, and in every
  other place those of the request for a read. -/
  rewritten : ∀ buffer bytes, decode? buffer = some bytes → ∀ tag, ∃ written asking,
    encode tag (some bytes) = .ok written ∧ encode tag none = .ok asking ∧
      (∀ i, 7 ≤ i → i ≤ 14 → written[i]? = buffer[i]?) ∧
      ∀ i, i < 7 ∨ i = 15 → written[i]? = asking[i]?

/-- What is encoded is decoded again. Values of 32 bytes are encoded and no others, and buffers with
words in the places of the value are decoded and no others. -/
theorem codec_faithful : Faithful where
  written tag value := by
    refine ⟨_, encode_toList tag value, length_frame tag value,
      fits_iff_holds.2 ⟨_, holds_frame tag value⟩, ?_, decode?_frame tag value⟩
    intro i h
    rw [holds_frame tag value i h, Block.toNat_words value h]
    rfl
  refused tag bytes := encode_of_length_ne tag
  readable buffer := isSome_decode?_iff
  indifferent buffer buffer' := decode?_congr
  rewritten := by
    intro buffer bytes read tag
    obtain ⟨ws, holds, rfl⟩ := decode?_eq_some_iff.1 read
    refine ⟨_, _, encode_toList tag (Block.ofWords ws), rfl, ?_, ?_⟩
    · intro i least most
      obtain ⟨j, rfl⟩ := Nat.exists_eq_add_of_le least
      have small : j < 8 := by omega
      rw [holds_frame tag _ j small, holds j small, Block.words_ofWords]
    · intro i outside
      exact getElem?_layout_frame _ _ _ _ outside

end Mailbox

end DeviceKeys
