import DeviceKeys.Bytes

/-!
# The Keccak permutation on 1600 bits

The state is five planes of five 64-bit lanes; lane `x` of plane `y` is lane `5 * y + x` of the
sponge. A round is written plane by plane, so that each step mapping is one short definition:
`theta` adds the parity of two neighbouring columns, `rhoPi` rotates each lane and moves it,
`chi` is the only step that is not linear, and `iota` adds the round constant.

Nothing else in the library depends on what the permutation computes, only on the size of a
state; that is why its single law here is `length_lanes`.
-/

set_option autoImplicit false

namespace DeviceKeys.Keccak

/-- Five lanes with the same `y`. -/
structure Plane where
  x0 : UInt64
  x1 : UInt64
  x2 : UInt64
  x3 : UInt64
  x4 : UInt64
  deriving DecidableEq, Repr

structure State where
  y0 : Plane
  y1 : Plane
  y2 : Plane
  y3 : Plane
  y4 : Plane
  deriving DecidableEq, Repr

namespace Plane

@[inline] def zipWith (f : UInt64 → UInt64 → UInt64) (p q : Plane) : Plane :=
  ⟨f p.x0 q.x0, f p.x1 q.x1, f p.x2 q.x2, f p.x3 q.x3, f p.x4 q.x4⟩

@[inline] def xor (p q : Plane) : Plane := zipWith (· ^^^ ·) p q

def lanes (p : Plane) : List UInt64 := [p.x0, p.x1, p.x2, p.x3, p.x4]

end Plane

namespace State

/-- The state whose lane number `i` is `f i`. -/
def ofFn (f : Nat → UInt64) : State :=
  ⟨⟨f 0, f 1, f 2, f 3, f 4⟩, ⟨f 5, f 6, f 7, f 8, f 9⟩, ⟨f 10, f 11, f 12, f 13, f 14⟩,
    ⟨f 15, f 16, f 17, f 18, f 19⟩, ⟨f 20, f 21, f 22, f 23, f 24⟩⟩

def zero : State := ofFn fun _ => 0

def xor (s t : State) : State :=
  ⟨s.y0.xor t.y0, s.y1.xor t.y1, s.y2.xor t.y2, s.y3.xor t.y3, s.y4.xor t.y4⟩

def lanes (s : State) : List UInt64 :=
  s.y0.lanes ++ s.y1.lanes ++ s.y2.lanes ++ s.y3.lanes ++ s.y4.lanes

@[simp] theorem length_lanes (s : State) : s.lanes.length = 25 := rfl

end State

/-! ## The step mappings -/

/-- Rotation toward the high bits by `n`, which is from 1 to 63. -/
@[inline] def rotate (lane n : UInt64) : UInt64 :=
  (lane <<< n) ||| (lane >>> (64 - n))

@[inline] def theta (s : State) : State :=
  let c := s.y0.xor (s.y1.xor (s.y2.xor (s.y3.xor s.y4)))
  let d : Plane :=
    ⟨c.x4 ^^^ rotate c.x1 1, c.x0 ^^^ rotate c.x2 1, c.x1 ^^^ rotate c.x3 1,
      c.x2 ^^^ rotate c.x4 1, c.x3 ^^^ rotate c.x0 1⟩
  ⟨s.y0.xor d, s.y1.xor d, s.y2.xor d, s.y3.xor d, s.y4.xor d⟩

/-- Lane `x` of plane `y` becomes lane `y` of plane `2 * x + 3 * y`, rotated by its own offset. -/
@[inline] def rhoPi (s : State) : State where
  y0 := ⟨s.y0.x0, rotate s.y1.x1 44, rotate s.y2.x2 43, rotate s.y3.x3 21, rotate s.y4.x4 14⟩
  y1 := ⟨rotate s.y0.x3 28, rotate s.y1.x4 20, rotate s.y2.x0 3, rotate s.y3.x1 45,
    rotate s.y4.x2 61⟩
  y2 := ⟨rotate s.y0.x1 1, rotate s.y1.x2 6, rotate s.y2.x3 25, rotate s.y3.x4 8,
    rotate s.y4.x0 18⟩
  y3 := ⟨rotate s.y0.x4 27, rotate s.y1.x0 36, rotate s.y2.x1 10, rotate s.y3.x2 15,
    rotate s.y4.x3 56⟩
  y4 := ⟨rotate s.y0.x2 62, rotate s.y1.x3 55, rotate s.y2.x4 39, rotate s.y3.x0 41,
    rotate s.y4.x1 2⟩

@[inline] def Plane.chi (p : Plane) : Plane :=
  ⟨p.x0 ^^^ (~~~p.x1 &&& p.x2), p.x1 ^^^ (~~~p.x2 &&& p.x3), p.x2 ^^^ (~~~p.x3 &&& p.x4),
    p.x3 ^^^ (~~~p.x4 &&& p.x0), p.x4 ^^^ (~~~p.x0 &&& p.x1)⟩

@[inline] def chi (s : State) : State :=
  ⟨s.y0.chi, s.y1.chi, s.y2.chi, s.y3.chi, s.y4.chi⟩

@[inline] def iota (constant : UInt64) (s : State) : State :=
  { s with y0 := { s.y0 with x0 := s.y0.x0 ^^^ constant } }

/-- One constant per round; there are twenty-four rounds. -/
def roundConstants : List UInt64 :=
  [0x0000000000000001, 0x0000000000008082, 0x800000000000808A, 0x8000000080008000,
    0x000000000000808B, 0x0000000080000001, 0x8000000080008081, 0x8000000000008009,
    0x000000000000008A, 0x0000000000000088, 0x0000000080008009, 0x000000008000000A,
    0x000000008000808B, 0x800000000000008B, 0x8000000000008089, 0x8000000000008003,
    0x8000000000008002, 0x8000000000000080, 0x000000000000800A, 0x800000008000000A,
    0x8000000080008081, 0x8000000000008080, 0x0000000080000001, 0x8000000080008008]

def permute (s : State) : State :=
  roundConstants.foldl (fun s constant => iota constant (chi (rhoPi (theta s)))) s

end DeviceKeys.Keccak
