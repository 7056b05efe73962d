/-!
# Bits of integers

An integer has infinitely many bits. A natural number has zeros without end above its own, and a
negative integer is the complement of one, so that it has ones without end. This module joins two
integers bit by bit; no width is fixed, hence nothing is ever cut off.
-/

set_option autoImplicit false

namespace DeviceKeys.Bits

/-- Bit number `i` of an integer, counted from the lowest. -/
def bit (n : Int) (i : Nat) : Bool :=
  match n with
  | .ofNat m => m.testBit i
  | .negSucc m => !m.testBit i

/-- The bits of `m` that `n` does not have. -/
def without (m n : Nat) : Nat := m ^^^ (m &&& n)

/-- The bits that at least one of two integers has. -/
def union : Int → Int → Int
  | .ofNat m, .ofNat n => .ofNat (m ||| n)
  | .ofNat m, .negSucc n => .negSucc (without n m)
  | .negSucc m, .ofNat n => .negSucc (without m n)
  | .negSucc m, .negSucc n => .negSucc (m &&& n)

@[simp] theorem testBit_without (m n i : Nat) :
    (without m n).testBit i = (m.testBit i && !n.testBit i) := by
  rw [without, Nat.testBit_xor, Nat.testBit_and]
  cases m.testBit i <;> cases n.testBit i <;> rfl

/-- What `union` does, seen bit by bit. -/
theorem bit_union (m n : Int) (i : Nat) : bit (union m n) i = (bit m i || bit n i) := by
  cases m <;> cases n <;> simp only [union, bit, Nat.testBit_or, Nat.testBit_and, testBit_without]
  · case ofNat.negSucc m n => cases m.testBit i <;> cases n.testBit i <;> rfl
  · case negSucc.ofNat m n => cases m.testBit i <;> cases n.testBit i <;> rfl
  · case negSucc.negSucc m n => cases m.testBit i <;> cases n.testBit i <;> rfl

end DeviceKeys.Bits
