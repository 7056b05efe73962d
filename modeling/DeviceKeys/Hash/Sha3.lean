import DeviceKeys.Hash.Keccak

/-!
# SHA3-256 and SHA3-512

The sponge reads a message in blocks of `rate` bytes, each added to the front of the state before
the permutation, and gives the front of the last state as the digest. Both members used here give
a digest shorter than their rate, so one state is always enough and `length_digest` needs no loop.

The padding closes the message with the two domain bits and a final one, in the byte form
`06 00 … 00 80`; the two ends fall together into `86` when a single byte is missing.
-/

set_option autoImplicit false

namespace DeviceKeys.Sha3

open Keccak

/-- Eight bytes as a lane, the first byte lowest; missing bytes are zero. -/
def lane (bytes : Bytes) : UInt64 :=
  (bytes.take 8).foldr (fun b high => b.toUInt64 ||| (high <<< 8)) 0

/-- A lane as eight bytes, the lowest first. -/
def laneBytes (w : UInt64) : Bytes :=
  (List.range 8).map fun i => (w >>> UInt64.ofNat (8 * i)).toUInt8

@[simp] theorem length_laneBytes (w : UInt64) : (laneBytes w).length = 8 := by simp [laneBytes]

/-- What follows a message of the given length. -/
def padding (rate length : Nat) : Bytes :=
  match rate - length % rate with
  | 0 => []
  | 1 => [0x86]
  | missing + 2 => 0x06 :: (List.replicate missing 0 ++ [0x80])

/-- Adds `count` blocks to the state one after the other. -/
def absorb (rate : Nat) : Nat → Bytes → State → State
  | 0, _, s => s
  | count + 1, bytes, s =>
    let block := bytes.take rate
    absorb rate count (bytes.drop rate)
      (permute (s.xor (State.ofFn fun i => lane (block.drop (8 * i)))))

/-- The digest of `size` bytes that a sponge of the given rate gives. -/
def digest (rate size : Nat) (message : Bytes) : Bytes :=
  let padded := message ++ padding rate message.length
  ((absorb rate (padded.length / rate) padded State.zero).lanes.flatMap laneBytes).take size

def sha3_256 (message : Bytes) : Bytes := digest 136 32 message

def sha3_512 (message : Bytes) : Bytes := digest 72 64 message

theorem length_flatMap_laneBytes (ws : List UInt64) :
    (ws.flatMap laneBytes).length = 8 * ws.length := by
  induction ws with
  | nil => rfl
  | cons w rest ih => rw [List.flatMap_cons, List.length_append, ih, length_laneBytes]; simp; omega

/-- A digest has the size asked for, as long as that fits into one state. -/
theorem length_digest (rate size : Nat) (h : size ≤ 200) (message : Bytes) :
    (digest rate size message).length = size := by
  rw [digest, List.length_take, length_flatMap_laneBytes, State.length_lanes]
  omega

@[simp] theorem length_sha3_256 (message : Bytes) : (sha3_256 message).length = 32 :=
  length_digest 136 32 (by decide) message

@[simp] theorem length_sha3_512 (message : Bytes) : (sha3_512 message).length = 64 :=
  length_digest 72 64 (by decide) message

end DeviceKeys.Sha3
