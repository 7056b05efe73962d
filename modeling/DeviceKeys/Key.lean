import DeviceKeys.Hash.Hkdf
import DeviceKeys.RootSecret
import DeviceKeys.Uuid

/-!
# Keys derived from a secret

A key is the front of the HKDF output for a secret, a salt and a label that keeps keys for
different uses apart. The same bytes are offered in three shapes: raw, as hexadecimal text,
and, at sixteen bytes, as a UUID. Only a length outside the output, which is 255 blocks long, is
refused; a length of zero is not, and gives the empty key.

The refusal has the length in its message, and so comes to nothing where the length has more digits
than are written in decimal: what is met then is the error of the writing (`Key.refusal`).
-/

set_option autoImplicit false

namespace DeviceKeys

/-- The label of a key, given as a text or as the bytes themselves. -/
inductive Label where
  | text (value : String)
  | bytes (value : Bytes)
  deriving DecidableEq, Repr

def Label.toBytes : Label → Bytes
  | text value => Bytes.ofText value
  | bytes value => value

namespace Key

/-- The longest key: 255 blocks, since the counter of a block is a single byte. -/
def longest : Nat := 255 * Hkdf.digestSize

def uuidSize : Nat := 16

/-- The first `length` bytes that belong to a secret, a salt and a label. -/
def material (secret : RootSecret) (label : Label) (length : Nat) (salt : Option Bytes) : Bytes :=
  Hkdf.expand (Hkdf.extract salt secret.bytes) label.toBytes length

/-- What is met in place of a key by a length that is out of range. -/
def refusal (length : Int) : Error :=
  if Text.isWritable length then .keyLength length longest else .tooManyDigits

theorem refusal_of_isWritable {length : Int} (short : Text.isWritable length = true) :
    refusal length = .keyLength length longest := if_pos short

theorem refusal_of_not_isWritable {length : Int} (long : Text.isWritable length = false) :
    refusal length = .tooManyDigits := by
  rw [refusal, long, if_neg Bool.false_ne_true]

def ofLength (secret : RootSecret) (label : Label) (length : Int) (salt : Option Bytes) :
    Except Error Bytes :=
  if length < 0 ∨ longest < length then .error (refusal length)
  else .ok (material secret label length.toNat salt)

def hexOfLength (secret : RootSecret) (label : Label) (length : Int) (salt : Option Bytes) :
    Except Error String :=
  (ofLength secret label length salt).map Bytes.hex

/-- The UUID made of the first sixteen bytes, whose length is never out of range. -/
def uuid (secret : RootSecret) (label : Label) (salt : Option Bytes) : Uuid :=
  .ofRandom ⟨(material secret label uuidSize salt).toArray, by simp [material, uuidSize]⟩

end Key

end DeviceKeys
