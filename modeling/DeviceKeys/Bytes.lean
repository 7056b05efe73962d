/-!
# Bytes, and blocks of thirty-two of them

Everything that is hashed, sent or printed here is a finite sequence of bytes, kept as a list so
that a law about it is an induction over it. Two views of such a sequence are fixed in this module
once for the whole library: its lowercase hexadecimal text (`hex`) and, for the one size that the
memory of the device has, the type `Block` of exactly thirty-two bytes. A `Block` is what a region
holds, what a random draw gives and what a secret is made of; only what a caller hands in is still
`Bytes`, and `Block.ofBytes?` is the one place where its size is looked at.
-/

set_option autoImplicit false

namespace DeviceKeys

abbrev Bytes := List UInt8

namespace Bytes

/-! ## Hexadecimal text -/

/-- The digit of a value below sixteen, in lowercase. -/
def nibble (n : Nat) : Char :=
  if n < 10 then Char.ofNat (48 + n) else Char.ofNat (87 + n)

/-- Two digits per byte, the high half first. -/
def hexDigits (bytes : Bytes) : List Char :=
  bytes.flatMap fun b => [nibble (b.toNat / 16), nibble (b.toNat % 16)]

def hex (bytes : Bytes) : String :=
  String.ofList (hexDigits bytes)

/-- The value of a hexadecimal digit, in either case. -/
def nibbleValue? (c : Char) : Option Nat :=
  if '0' ≤ c ∧ c ≤ '9' then some (c.toNat - 48)
  else if 'a' ≤ c ∧ c ≤ 'f' then some (c.toNat - 87)
  else if 'A' ≤ c ∧ c ≤ 'F' then some (c.toNat - 55)
  else none

/-- Reads digits two by two; an odd one, or a character that is no digit, refuses the whole text. -/
def ofHexDigits? : List Char → Option Bytes
  | [] => some []
  | [_] => none
  | high :: low :: rest => do
    let h ← nibbleValue? high
    let l ← nibbleValue? low
    let tail ← ofHexDigits? rest
    return UInt8.ofNat (h * 16 + l) :: tail

def ofHex? (text : String) : Option Bytes :=
  ofHexDigits? text.toList

@[simp] theorem length_hexDigits (bytes : Bytes) : (hexDigits bytes).length = 2 * bytes.length := by
  induction bytes with
  | nil => rfl
  | cons b rest ih =>
    simp only [hexDigits, List.flatMap_cons, List.length_append] at ih ⊢
    simp [ih]
    omega

theorem nibbleValue?_nibble : ∀ n < 16, nibbleValue? (nibble n) = some n := by decide

/-- Reading back what was written gives the same bytes. -/
@[simp] theorem ofHexDigits?_hexDigits (bytes : Bytes) :
    ofHexDigits? (hexDigits bytes) = some bytes := by
  induction bytes with
  | nil => rfl
  | cons b rest ih =>
    have hb : b.toNat < 256 := b.toNat_lt
    have step : hexDigits (b :: rest) =
        nibble (b.toNat / 16) :: nibble (b.toNat % 16) :: hexDigits rest := rfl
    rw [step, ofHexDigits?, nibbleValue?_nibble _ (by omega), nibbleValue?_nibble _ (by omega), ih]
    show some (UInt8.ofNat (b.toNat / 16 * 16 + b.toNat % 16) :: rest) = _
    rw [show b.toNat / 16 * 16 + b.toNat % 16 = b.toNat by omega, UInt8.ofNat_toNat]

/-! ## UTF-8 -/

/-- The bytes in which a text is stored and hashed: UTF-8, without any normalization. -/
def ofText (text : String) : Bytes :=
  text.toUTF8.data.toList

/-- The text that these bytes are the UTF-8 form of, if there is one. -/
def text? (bytes : Bytes) : Option String :=
  String.fromUTF8? ⟨bytes.toArray⟩

/-- The UTF-8 form of a text is that of its characters, one after the other. -/
theorem ofText_eq_flatMap (text : String) :
    ofText text = text.toList.flatMap String.utf8EncodeChar := by
  have spelled : ofText text = ofText (String.ofList text.toList) := by rw [String.ofList_toList]
  exact spelled.trans List.toList_data_toByteArray

@[simp] theorem text?_ofText (text : String) : text? (ofText text) = some text :=
  dif_pos text.isValidUTF8

/-- Bytes are read as a text exactly if they are what the text is stored as. -/
theorem text?_eq_some_iff {bytes : Bytes} {text : String} :
    text? bytes = some text ↔ ofText text = bytes := by
  constructor
  · intro read
    unfold text? String.fromUTF8? at read
    split at read
    · cases read
      rfl
    · cases read
  · rintro rfl
    exact text?_ofText text

end Bytes

/-! ## Blocks -/

/-- Thirty-two bytes: the contents of a region, a random draw, or a secret. -/
abbrev Block := Vector UInt8 32

namespace Block

def size : Nat := 32

/-- The contents of a region that was never programmed. -/
def zero : Block := Vector.replicate 32 0

def ofBytes? (bytes : Bytes) : Option Block :=
  if h : bytes.length = 32 then some ⟨bytes.toArray, by simpa using h⟩ else none

def isBlank (b : Block) : Bool := b == zero

/-- Bits burned on top of what is there: a bit once set stays set. -/
def burn (rows value : Block) : Block := Vector.zipWith (· ||| ·) rows value

def flip (value mask : Block) : Block := Vector.zipWith (· ^^^ ·) value mask

theorem ofBytes?_toList (b : Block) : ofBytes? b.toList = some b := by
  unfold ofBytes?
  rw [dif_pos (by simp)]
  exact congrArg some (Vector.toArray_inj.1 (by simp [Vector.toList]))

theorem toList_of_ofBytes? {bytes : Bytes} {b : Block} (h : ofBytes? bytes = some b) :
    b.toList = bytes := by
  unfold ofBytes? at h
  split at h
  · cases h; simp
  · cases h

theorem ofBytes?_eq_none_iff (bytes : Bytes) : ofBytes? bytes = none ↔ bytes.length ≠ 32 := by
  unfold ofBytes?; split <;> simp_all

end Block

end DeviceKeys
