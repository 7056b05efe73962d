import DeviceKeys.Bytes

/-!
# Version-4 UUIDs

Sixteen bytes of which six bits are given: the version in the high half of byte 6 and the variant
in the two high bits of byte 8. The text form is the only one in use, lowercase digits in groups
of 8, 4, 4, 4 and 12; `ofText?` reads that form back and no other.
-/

set_option autoImplicit false

namespace DeviceKeys

structure Uuid where
  bytes : Vector UInt8 16
  deriving DecidableEq, Repr

namespace Uuid

/-- The high half of a byte becomes the version. -/
def setVersion (b : UInt8) : UInt8 := (b &&& 0x0F) ||| 0x40

/-- The two high bits of a byte become the variant. -/
def setVariant (b : UInt8) : UInt8 := (b &&& 0x3F) ||| 0x80

/-- The UUID made of sixteen random bytes; the other 122 bits stay as they are. -/
def ofRandom (raw : Vector UInt8 16) : Uuid :=
  ⟨raw.mapIdx fun i b => if i = 6 then setVersion b else if i = 8 then setVariant b else b⟩

/-- Digits in groups of 8, 4, 4, 4 and 12, joined by hyphens. -/
def hyphenate (digits : List Char) : List Char :=
  digits.take 8 ++ '-' :: ((digits.drop 8).take 4 ++ '-' :: ((digits.drop 12).take 4
    ++ '-' :: ((digits.drop 16).take 4 ++ '-' :: digits.drop 20)))

def text (u : Uuid) : String := String.ofList (hyphenate (Bytes.hexDigits u.bytes.toList))

/-- Reads the form that `text` writes. -/
def ofText? (text : String) : Option Uuid := do
  let digits := text.toList.filter (· != '-')
  let bytes ← Bytes.ofHexDigits? digits
  if h : bytes.length = 16 then
    let u : Uuid := ⟨⟨bytes.toArray, by simpa using h⟩⟩
    if u.text = text then some u else none
  else none

end Uuid

end DeviceKeys
