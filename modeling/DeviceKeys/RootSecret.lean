import DeviceKeys.Error
import DeviceKeys.Hash.Sha3

/-!
# Root secrets

A root secret is thirty-two bytes that are shown to nobody: whatever asks for its text gets the same
fixed text, and it has neither a hash nor a serialized form. What can be done with it is to
compare it, to ask whether it was ever programmed, to derive keys from it, and to erase it.
-/

set_option autoImplicit false

namespace DeviceKeys

structure RootSecret where
  block : Block
  deriving DecidableEq

namespace RootSecret

def ofBytes (bytes : Bytes) : Except Error RootSecret :=
  match Block.ofBytes? bytes with
  | some block => .ok ⟨block⟩
  | none => .error (.secretSize bytes.length)

/-- The secret that a development override stands for: the SHA3-256 digest of its bytes. -/
def ofSeed (seed : Bytes) : RootSecret :=
  ⟨⟨(Sha3.sha3_256 seed).toArray, by simp⟩⟩

def bytes (secret : RootSecret) : Bytes := secret.block.toList

def isBlank (secret : RootSecret) : Bool := secret.block.isBlank

/-- What is left of a secret that is no longer needed. -/
def erased : RootSecret := ⟨Block.zero⟩

/-- The text of every secret. -/
def redacted : String := "DeviceSecret(<redacted>)"

@[simp] theorem length_bytes (secret : RootSecret) : secret.bytes.length = 32 := by simp [bytes]

@[simp] theorem bytes_ofSeed (seed : Bytes) : (ofSeed seed).bytes = Sha3.sha3_256 seed := rfl

end RootSecret

end DeviceKeys
