import DeviceKeys.Key

/-!
# Keys are the front of a stream

The standard describes the output of HKDF as a sequence of blocks, T(0), T(1) and so on, in which
each block authenticates the one before it, the label and its own number as a single byte
(`Hkdf.Chain`). That is a description and not a function: it says nothing about a block whose number
is no byte, and it does not say how to come by the blocks. Any sequence that fits it gives the same
keys, since the longest key needs no block beyond the last one that has a number.

A key of any length ends somewhere in a block, and what stands behind that point depends on nothing
that was asked for. So a shorter key is the front of a longer one.

A length that is out of range is to be refused by name. That holds up to the number of digits that
are written in decimal and not beyond it (`KeysStreamed.exact`): the message of the refusal cannot
be made, and the attempt to make it is the error that is met.
-/

set_option autoImplicit false

namespace DeviceKeys

namespace Hkdf

variable {key info : Bytes} {t : Nat → Bytes} {count : Nat}

/-! ## The blocks of the standard -/

/-- A sequence of blocks as the standard describes it; `counter` is the number of a block, for as
long as that is a byte. -/
structure Chain (key info : Bytes) (t : Nat → Bytes) : Prop where
  zero : t 0 = []
  succ : ∀ (i : Nat) (counter : UInt8), counter.toNat = i + 1 →
    t (i + 1) = Hmac.authenticate key (t i ++ info ++ [counter])

theorem chain_block (key info : Bytes) : Chain key info (block key info) where
  zero := rfl
  succ := by
    intro i counter number
    have same : UInt8.ofNat (i + 1) = counter := by rw [← number, UInt8.ofNat_toNat]
    rw [block, next, same]

/-- Up to the last number that is a byte there is only one such sequence. -/
theorem Chain.eq_block (h : Chain key info t) : ∀ i ≤ 255, t i = block key info i := by
  intro i fits
  induction i with
  | zero => exact h.zero
  | succ i ih =>
    have number : (UInt8.ofNat (i + 1)).toNat = i + 1 :=
      UInt8.toNat_ofNat_of_lt' (show i + 1 < 256 by omega)
    rw [h.succ i _ number, (chain_block key info).succ i _ number, ih (by omega)]

theorem length_block (key info : Bytes) (i : Nat) : (block key info (i + 1)).length = digestSize :=
  length_next _ _ _ _

/-! ## The stream of the blocks -/

/-- The blocks with the numbers from 1 to `count`, one after the other. -/
def stream (t : Nat → Bytes) (count : Nat) : Bytes := (List.range' 1 count).flatMap t

theorem Chain.stream_eq (h : Chain key info t) (fits : count ≤ 255) :
    stream t count = stream (block key info) count := by
  have same : (List.range' 1 count).map t = (List.range' 1 count).map (block key info) := by
    refine List.map_congr_left fun i mem => h.eq_block i ?_
    rw [List.mem_range'_1] at mem
    omega
  rw [stream, stream, List.flatMap_def, List.flatMap_def, same]

theorem length_stream (key info : Bytes) (count : Nat) :
    (stream (block key info) count).length = digestSize * count := by
  have produced := blocks_eq key info 0 count
  rw [stream, ← produced, length_blocks]

/-- More blocks only add to the end. -/
theorem stream_prefix (t : Nat → Bytes) {m n : Nat} (h : m ≤ n) : stream t m <+: stream t n := by
  obtain ⟨more, rfl⟩ := Nat.exists_eq_add_of_le h
  refine ⟨(List.range' (1 + m) more).flatMap t, ?_⟩
  rw [stream, stream, ← List.flatMap_append, List.range'_append_1]

/-- The output is the front of the stream, however many blocks are made, if only they are enough. -/
theorem expand_eq_take {length : Nat} (count : Nat) (enough : length ≤ digestSize * count) :
    expand key info length = (stream (block key info) count).take length := by
  have produced := blocks_eq key info 0 ((length + (digestSize - 1)) / digestSize)
  have least : (length + (digestSize - 1)) / digestSize ≤ count := by
    simp only [digestSize] at *
    omega
  -- The program makes the least number of blocks, and the cut is made in front of any more.
  obtain ⟨rest, more⟩ := stream_prefix (block key info) least
  rw [← more, List.take_append_of_le_length]
  · rw [expand, stream, ← produced]
    rfl
  · rw [length_stream]
    simp only [digestSize]
    omega

end Hkdf

/-! ## Keys -/

namespace Key

open Hkdf (Chain stream)

variable (secret : RootSecret) (label : Label) (salt : Option Bytes)

theorem ofLength_of_fits {length : Nat} (fits : length ≤ longest) :
    ofLength secret label length salt = .ok (material secret label length salt) := by
  have inside : ¬((length : Int) < 0 ∨ (longest : Int) < length) := by omega
  rw [ofLength, if_neg inside, Int.toNat_natCast]

theorem ofLength_eq_error_iff {length : Int} {err : Error} :
    ofLength secret label length salt = .error err ↔
      (length < 0 ∨ longest < length) ∧ err = refusal length := by
  unfold ofLength
  split
  · next outside => simp [outside, eq_comm]
  · next inside => simp [inside]

theorem kind_refusal_iff {length : Int} :
    (refusal length).kind = .keyLength ↔ Text.isWritable length = true := by
  cases short : Text.isWritable length with
  | true => simp [refusal_of_isWritable short, Error.kind]
  | false => simp [refusal_of_not_isWritable short, Error.kind]

/-- A length with too many digits to be written is in particular out of range. -/
theorem outside_of_not_isWritable {length : Int} (long : Text.isWritable length = false) :
    length < 0 ∨ longest < length := by
  by_cases inside : length < 0 ∨ longest < length
  · exact inside
  · have within : length.natAbs ≤ longest := by omega
    have five : (Nat.toDigits 10 length.natAbs).length ≤ 5 :=
      (Nat.length_toDigits_le_iff (by decide) (by decide)).2
        (Nat.lt_of_le_of_lt within (by decide))
    have few : 5 ≤ Text.maxDigits := by decide +kernel
    exact absurd (Text.isWritable_eq_false_iff.1 long) (Nat.not_lt.2 (Nat.le_trans five few))

/-- A length is refused by name exactly where it is out of range and can be written out. -/
theorem refused_iff {length : Int} :
    (∃ err, ofLength secret label length salt = .error err ∧ err.kind = .keyLength) ↔
      (length < 0 ∨ longest < length) ∧ Text.isWritable length = true := by
  simp only [ofLength_eq_error_iff, ← kind_refusal_iff]
  constructor
  · rintro ⟨_, ⟨outside, rfl⟩, kind⟩
    exact ⟨outside, kind⟩
  · rintro ⟨outside, kind⟩
    exact ⟨_, ⟨outside, rfl⟩, kind⟩

/-- What a key is, for one secret, label and salt. -/
structure KeysStreamed : Prop where
  /-- A length is refused if it is below zero or above 255 blocks, and for no other reason; the
  error names it if it has at most 4300 digits. -/
  refused : ∀ (length : Int) (err : Error),
    (Nat.toDigits 10 length.natAbs).length ≤ Text.maxDigits →
    (ofLength secret label length salt = .error err ↔
      (length < 0 ∨ 16320 < length) ∧ err = .keyLength length 16320)
  /-- A length with more digits is refused as well, but with an error that is not about lengths. -/
  unwritable : ∀ length : Int,
    Text.maxDigits < (Nat.toDigits 10 length.natAbs).length →
    ofLength secret label length salt = .error .tooManyDigits
  /-- So the lengths that are refused by name are those out of range, as far as the digits go. -/
  exact : ∀ length : Int,
    ((∃ err, ofLength secret label length salt = .error err ∧ err.kind = .keyLength) ↔
      length < 0 ∨ 16320 < length) ↔ (Nat.toDigits 10 length.natAbs).length ≤ Text.maxDigits
  /-- Any other length gives a key of that length: the front of the blocks of the standard, of which
  there are enough before the number of a block is no byte any more. -/
  given : ∀ length : Nat, length ≤ 16320 → ∃ key, ofLength secret label length salt = .ok key ∧
    key.length = length ∧ (length + 63) / 64 ≤ 255 ∧
    ∀ t, Chain (Hmac.authenticate (salt.getD (List.replicate 64 0)) secret.bytes) label.toBytes t →
      key = (stream t ((length + 63) / 64)).take length ∧ key = (stream t 255).take length
  /-- There are such blocks, each of the size of a digest. -/
  blocks : ∃ t,
    Chain (Hmac.authenticate (salt.getD (List.replicate 64 0)) secret.bytes) label.toBytes t ∧
      ∀ i, 1 ≤ i → (t i).length = 64
  /-- A shorter key is the front of a longer one. -/
  front : ∀ m n : Nat, m ≤ n → n ≤ 16320 → ∃ shorter longer,
    ofLength secret label m salt = .ok shorter ∧ ofLength secret label n salt = .ok longer ∧
      shorter = longer.take m

theorem keys_streamed : KeysStreamed secret label salt where
  refused := by
    intro length err short
    rw [ofLength_eq_error_iff, refusal_of_isWritable (Text.isWritable_iff.2 short)]
    rfl
  unwritable := by
    intro length long
    have long := Text.isWritable_eq_false_iff.2 long
    rw [ofLength_eq_error_iff, refusal_of_not_isWritable long]
    exact ⟨outside_of_not_isWritable long, rfl⟩
  exact := by
    intro length
    have outside : Text.isWritable length = false → length < 0 ∨ 16320 < length :=
      outside_of_not_isWritable
    rw [refused_iff, ← Text.isWritable_iff]
    cases short : Text.isWritable length with
    | true => simp [longest, Hkdf.digestSize]
    | false => simp [outside short]
  given := by
    intro length fits
    have last : (length + 63) / 64 ≤ 255 := by omega
    refine ⟨_, ofLength_of_fits secret label salt fits, Hkdf.length_expand _ _ _, last, ?_⟩
    intro t chain
    rw [chain.stream_eq last, chain.stream_eq (Nat.le_refl 255)]
    constructor
    · exact Hkdf.expand_eq_take _ (show length ≤ 64 * _ by omega)
    · exact Hkdf.expand_eq_take 255 fits
  blocks := by
    refine ⟨_, Hkdf.chain_block _ _, ?_⟩
    intro i positive
    obtain ⟨j, rfl⟩ := Nat.exists_eq_add_of_le' positive
    exact Hkdf.length_block _ _ j
  front := by
    intro m n shorter fits
    refine ⟨_, _, ofLength_of_fits secret label salt (Nat.le_trans shorter fits),
      ofLength_of_fits secret label salt fits, ?_⟩
    -- Both are fronts of the stream of all blocks that have a number.
    rw [material, material, Hkdf.expand_eq_take 255 (Nat.le_trans shorter fits),
      Hkdf.expand_eq_take 255 fits, List.take_take, Nat.min_eq_left shorter]

def overlong : Int := Nat.pow 10 Text.maxDigits

theorem not_isWritable_overlong : Text.isWritable overlong = false := by
  have most : 0 < Text.maxDigits := by decide +kernel
  rw [Text.isWritable_eq_false_iff, ← Nat.not_le, overlong, Int.natAbs_natCast,
    Nat.length_toDigits_le_iff (by decide) most]
  exact Nat.lt_irrefl _

/-- This length is out of range, and the error that is met is not the one about lengths. -/
theorem ofLength_overlong :
    let secret : RootSecret := ⟨.replicate 32 1⟩
    (overlong < 0 ∨ 16320 < overlong) ∧
      ofLength secret (.text "disk") overlong none = .error .tooManyDigits ∧
      ¬∃ err, ofLength secret (.text "disk") overlong none = .error err ∧
        err.kind = .keyLength := by
  intro secret
  have outside := outside_of_not_isWritable not_isWritable_overlong
  have met : ofLength secret (.text "disk") overlong none = .error .tooManyDigits := by
    rw [ofLength_eq_error_iff, refusal_of_not_isWritable not_isWritable_overlong]
    exact ⟨outside, rfl⟩
  refine ⟨outside, met, ?_⟩
  rintro ⟨err, given, kind⟩
  rw [met] at given
  cases given
  cases kind

end Key

end DeviceKeys
