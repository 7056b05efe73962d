import DeviceKeys.Hash.Hmac

/-!
# HKDF over SHA3-512

A secret is first concentrated into a pseudorandom key (`extract`), and that key is then stretched
block by block, each block authenticating the one before it, the label and a one-byte counter.

The blocks are written down twice. `block` says what block `i` is, by going back to the first one;
`blocks` produces any number of them in one pass, carrying the last block along. `blocks_eq` says
that both are the same stream, so that every law can be stated about `block` while the program
runs `blocks`.
-/

set_option autoImplicit false

namespace DeviceKeys.Hkdf

/-- The digest size, which is also the size of one block of output. -/
def digestSize : Nat := 64

/-- A missing salt is one digest of zero bytes. -/
def extract (salt : Option Bytes) (secret : Bytes) : Bytes :=
  Hmac.authenticate (salt.getD (List.replicate digestSize 0)) secret

/-- The block that follows `previous` and has the number `counter`. -/
def next (key info previous : Bytes) (counter : Nat) : Bytes :=
  Hmac.authenticate key (previous ++ info ++ [UInt8.ofNat counter])

/-- Block number `i` of the output; number zero is empty and is not part of it. -/
def block (key info : Bytes) : Nat → Bytes
  | 0 => []
  | i + 1 => next key info (block key info i) (i + 1)

/-- `count` blocks one after the other, the first of which has the number `counter`. -/
def blocks (key info previous : Bytes) (counter : Nat) : (count : Nat) → Bytes
  | 0 => []
  | count + 1 =>
    let this := next key info previous counter
    this ++ blocks key info this (counter + 1) count

/-- The first `length` bytes of the output. -/
def expand (key info : Bytes) (length : Nat) : Bytes :=
  (blocks key info [] 1 ((length + (digestSize - 1)) / digestSize)).take length

@[simp] theorem length_next (key info previous : Bytes) (counter : Nat) :
    (next key info previous counter).length = digestSize := by
  simp [next, digestSize]

@[simp] theorem length_blocks (key info previous : Bytes) (counter count : Nat) :
    (blocks key info previous counter count).length = digestSize * count := by
  induction count generalizing previous counter with
  | zero => rfl
  | succ count ih =>
    rw [blocks, List.length_append, length_next, ih, Nat.mul_succ, Nat.add_comm]

/-- One pass from block `i` on produces the blocks that follow it. -/
theorem blocks_eq (key info : Bytes) (i count : Nat) :
    blocks key info (block key info i) (i + 1) count
      = (List.range' (i + 1) count).flatMap (block key info) := by
  induction count generalizing i with
  | zero => rfl
  | succ count ih => rw [blocks, List.range'_succ, List.flatMap_cons, ← ih (i + 1)]; rfl

@[simp] theorem length_expand (key info : Bytes) (length : Nat) :
    (expand key info length).length = length := by
  rw [expand, List.length_take, length_blocks]
  have : length ≤ digestSize * ((length + (digestSize - 1)) / digestSize) := by
    simp only [digestSize]; omega
  omega

end DeviceKeys.Hkdf
