import DeviceKeys.Hash.Sha3

/-!
# HMAC over SHA3-512

A key is brought to the length of one hash block, which is 72 bytes and not the 64 of the digest:
a longer key is replaced by its digest, and what is missing is filled with zero bytes. Only this
block enters the code, so two keys with the same block are the same key; `blockKey` is named
because everything that is true of salts is said of it.
-/

set_option autoImplicit false

namespace DeviceKeys.Hmac

/-- The block of SHA3-512 in bytes. -/
def blockSize : Nat := 72

/-- A key brought to the length of one block. -/
def blockKey (key : Bytes) : Bytes :=
  let short := if blockSize < key.length then Sha3.sha3_512 key else key
  short ++ List.replicate (blockSize - short.length) 0

def authenticate (key message : Bytes) : Bytes :=
  let block := blockKey key
  let inner := Sha3.sha3_512 (block.map (· ^^^ 0x36) ++ message)
  Sha3.sha3_512 (block.map (· ^^^ 0x5C) ++ inner)

@[simp] theorem length_authenticate (key message : Bytes) :
    (authenticate key message).length = 64 := by
  simp [authenticate]

/-- Zeros at the end of a key that still fits into one block are no part of it. -/
theorem blockKey_append_zeros {key : Bytes} {count : Nat} (fits : key.length + count ≤ blockSize) :
    blockKey (key ++ List.replicate count 0) = blockKey key := by
  have short : ¬blockSize < key.length := by omega
  have long : ¬blockSize < (key ++ List.replicate count (0 : UInt8)).length := by
    rw [List.length_append, List.length_replicate]
    omega
  have missing : count + (blockSize - (key.length + count)) = blockSize - key.length := by omega
  simp only [blockKey, if_neg short, if_neg long]
  rw [List.length_append, List.length_replicate, List.append_assoc, List.replicate_append_replicate,
    missing]

/-- A key that does not fit into one block is its digest. -/
theorem blockKey_digest {key : Bytes} (long : blockSize < key.length) :
    blockKey (Sha3.sha3_512 key) = blockKey key := by
  have short : ¬blockSize < (Sha3.sha3_512 key).length := by
    rw [Sha3.length_sha3_512]
    decide
  simp only [blockKey, if_neg short, if_pos long]

/-- Two keys with one block are the same key. -/
theorem authenticate_congr {key other : Bytes} (h : blockKey key = blockKey other)
    (message : Bytes) : authenticate key message = authenticate other message := by
  simp only [authenticate, h]

end DeviceKeys.Hmac
