import DeviceKeys.Bits
import DeviceKeys.Error

/-!
# The mailbox property interface

A region is read or written by handing the firmware a buffer of sixteen 32-bit words, in which the
third names the request, the seven words in front are fixed, and words 7 to 14 carry the thirty-two
bytes of the value, each word with its first byte highest. The firmware answers in the same buffer,
with a code in the second word.

`layout` is the one place where the positions stand, for words of any type. A `Buffer` has words of
exactly thirty-two bits and is what calls exchange; `encode` and `decode?` are the same form on
unbounded integers, where a word can be out of range or missing.
-/

set_option autoImplicit false

namespace DeviceKeys

/-! ## Words -/

namespace Block

/-- Four bytes as one word, the first byte highest. -/
def wordOf (a b c d : UInt8) : UInt32 :=
  UInt32.ofNat (a.toNat * 0x1000000 + b.toNat * 0x10000 + c.toNat * 0x100 + d.toNat)

/-- Byte number `i` of a word, counted from the highest. -/
def byteOf (w : UInt32) (i : Nat) : UInt8 :=
  UInt8.ofNat (w.toNat >>> (8 * (3 - i)))

def words (b : Block) : Vector UInt32 8 :=
  .ofFn fun i => wordOf b[4 * i.val] b[4 * i.val + 1] b[4 * i.val + 2] b[4 * i.val + 3]

def ofWords (ws : Vector UInt32 8) : Block :=
  .ofFn fun i => byteOf ws[i.val / 4] (i.val % 4)

theorem byteOf_wordOf (a b c d : UInt8) :
    byteOf (wordOf a b c d) 0 = a ∧ byteOf (wordOf a b c d) 1 = b ∧
      byteOf (wordOf a b c d) 2 = c ∧ byteOf (wordOf a b c d) 3 = d := by
  have ha := a.toNat_lt; have hb := b.toNat_lt; have hc := c.toNat_lt; have hd := d.toNat_lt
  simp only [byteOf, wordOf, ← UInt8.toNat_inj, UInt8.toNat_ofNat', UInt32.toNat_ofNat',
    Nat.shiftRight_eq_div_pow]
  omega

theorem wordOf_byteOf (w : UInt32) :
    wordOf (byteOf w 0) (byteOf w 1) (byteOf w 2) (byteOf w 3) = w := by
  have hw := w.toNat_lt
  simp only [byteOf, wordOf, ← UInt32.toNat_inj, UInt8.toNat_ofNat', UInt32.toNat_ofNat',
    Nat.shiftRight_eq_div_pow]
  omega

@[simp] theorem ofWords_words (b : Block) : ofWords b.words = b := by
  apply Vector.ext
  intro i hi
  obtain ⟨h0, h1, h2, h3⟩ := byteOf_wordOf b[4 * (i / 4)] b[4 * (i / 4) + 1] b[4 * (i / 4) + 2]
    b[4 * (i / 4) + 3]
  simp only [ofWords, words, Vector.getElem_ofFn]
  have cases4 : i % 4 = 0 ∨ i % 4 = 1 ∨ i % 4 = 2 ∨ i % 4 = 3 := by omega
  rcases cases4 with h | h | h | h <;> rw [h]
  · rw [h0]; congr 1; omega
  · rw [h1]; congr 1; omega
  · rw [h2]; congr 1; omega
  · rw [h3]; congr 1; omega

@[simp] theorem words_ofWords (ws : Vector UInt32 8) : (ofWords ws).words = ws := by
  apply Vector.ext
  intro i hi
  have step := wordOf_byteOf ws[i]
  simp only [words, ofWords, Vector.getElem_ofFn]
  simpa only [show 4 * i / 4 = i by omega, show (4 * i + 1) / 4 = i by omega,
    show (4 * i + 2) / 4 = i by omega, show (4 * i + 3) / 4 = i by omega,
    show 4 * i % 4 = 0 by omega, show (4 * i + 1) % 4 = 1 by omega,
    show (4 * i + 2) % 4 = 2 by omega, show (4 * i + 3) % 4 = 3 by omega] using step

end Block

namespace Mailbox

/-- The file behind which the firmware listens. -/
def standardPath : String := "/dev/vcio"

def wordCount : Nat := 16

/-- The position of the first word of the value. -/
def valueStart : Nat := 7

def rowsPerRegion : Nat := 8

/-- The code of an answer to a request that the firmware carried out. -/
def success : UInt32 := 0x80000000

/-- The code of an answer to a request that the firmware does not know. -/
def failure : UInt32 := 0x80000001

def tagForReading : Region → Nat
  | .privateKey => 0x00030081
  | .customer => 0x00030021

def tagForWriting : Region → Nat
  | .privateKey => 0x00038081
  | .customer => 0x00038021

/-- The number of a device call that both reads and writes `size` bytes: the direction in bits 30
and 31, then the size from bit 16, the family of the device from bit 8 and the number within that
family. A part that is too large for its place, or negative, reaches into the others and is joined
with them bit by bit. -/
def callNumber (family number size : Int) : Int :=
  Bits.union (Bits.union (Bits.union 0xC0000000 (size * 0x10000)) (family * 0x100)) number

/-- The call that exchanges a buffer, whose size is that of a pointer. -/
def propertyCall : Int := callNumber 100 0 8

/-- A request: buffer size in bytes, room for the code, the tag, the size of the tag's own data,
room for its code, the first row and the number of rows, the value, and the end mark. -/
def layout {α : Type} (ofNat : Nat → α) (tag : α) (value : Vector α 8) : Vector α 16 :=
  #v[ofNat (4 * wordCount), ofNat 0, tag, ofNat (8 + Block.size), ofNat 0, ofNat 0,
    ofNat rowsPerRegion, value[0], value[1], value[2], value[3], value[4], value[5], value[6],
    value[7], ofNat 0]

/-- The words of the value stand at positions 7 to 14. -/
theorem layout_value {α : Type} (ofNat : Nat → α) (tag : α) (ws : Vector α 8) :
    #v[(layout ofNat tag ws)[7], (layout ofNat tag ws)[8], (layout ofNat tag ws)[9],
      (layout ofNat tag ws)[10], (layout ofNat tag ws)[11], (layout ofNat tag ws)[12],
      (layout ofNat tag ws)[13], (layout ofNat tag ws)[14]] = ws := by
  apply Vector.ext
  intro i hi
  iterate 8
    rcases i with _ | i
    · rfl
  omega

/-! ## Buffers of words -/

abbrev Buffer := Vector UInt32 16

namespace Buffer

/-- A request that carries `value`, or zeros where it is there to be filled. -/
def request (tag : UInt32) (value : Option Block) : Buffer :=
  layout UInt32.ofNat tag (value.getD Block.zero).words

def code (b : Buffer) : UInt32 := b[1]

def tag (b : Buffer) : UInt32 := b[2]

def value (b : Buffer) : Block :=
  .ofWords #v[b[7], b[8], b[9], b[10], b[11], b[12], b[13], b[14]]

/-- The buffer as it comes back with a code and a value. -/
def answer (b : Buffer) (code : UInt32) (value : Block) : Buffer :=
  (layout UInt32.ofNat b.tag value.words).set 1 code

@[simp] theorem tag_request (tag : UInt32) (value : Option Block) :
    (request tag value).tag = tag := rfl

@[simp] theorem value_request (tag : UInt32) (value : Option Block) :
    (request tag value).value = value.getD Block.zero := by
  rw [Buffer.value, request, layout_value, Block.ofWords_words]

@[simp] theorem code_answer (b : Buffer) (code : UInt32) (value : Block) :
    (b.answer code value).code = code := rfl

@[simp] theorem value_answer (b : Buffer) (code : UInt32) (value : Block) :
    (b.answer code value).value = value := by
  have words : (b.answer code value).value = .ofWords value.words := by
    rw [← layout_value UInt32.ofNat b.tag value.words]; rfl
  rw [words, Block.ofWords_words]

end Buffer

/-! ## Buffers of integers -/

/-- The request for a tag as integers, and its only refusal: a value of another size. -/
def encode (tag : Int) (value : Option Bytes) : Except Error (List Int) :=
  match value with
  | none => .ok (frame Block.zero)
  | some bytes =>
    match Block.ofBytes? bytes with
    | some block => .ok (frame block)
    | none => .error (.valueSize bytes.length)
where
  frame (block : Block) : List Int :=
    (layout Int.ofNat tag (block.words.map fun w => Int.ofNat w.toNat)).toList

/-- Whether an integer is a word of thirty-two bits. -/
def isWord (n : Int) : Bool := 0 ≤ n && n < 0x100000000

/-- The tag of a request that comes from outside, which has to be a word. -/
def checkedTag (tag : Int) : Except Error Nat :=
  if isWord tag then .ok tag.toNat
  else if tag < 0 then .error (.tagRange .negative)
  else if tag < 0x10000000000000000 then .error (.tagRange .aboveWord)
  else .error (.tagRange .aboveDoubleWord)

/-- Exactly the tags that are words are let through, as they are. -/
theorem checkedTag_eq_ok_iff {tag : Int} {n : Nat} :
    checkedTag tag = .ok n ↔ isWord tag = true ∧ tag = n := by
  unfold checkedTag
  split
  · next h =>
    simp only [isWord, Bool.and_eq_true, decide_eq_true_eq] at h
    simp only [Except.ok.injEq, isWord, Bool.and_eq_true, decide_eq_true_eq]
    omega
  · next h => split <;> (try split) <;> simp [h]

/-- The words of the value, if all eight are there and in range; the rest does not matter. -/
def valueWords? (buffer : List Int) : Option (Vector UInt32 8) :=
  let cells := (buffer.drop valueStart).take rowsPerRegion
  if h : cells.length = rowsPerRegion ∧ cells.all isWord = true then
    some ⟨(cells.map fun n => UInt32.ofNat n.toNat).toArray, by
      rw [List.size_toArray, List.length_map]; exact h.1⟩
  else none

def decode? (buffer : List Int) : Option Bytes :=
  (valueWords? buffer).map fun ws => (Block.ofWords ws).toList

end Mailbox

end DeviceKeys
