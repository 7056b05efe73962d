import DeviceKeys.Text.Blank

/-!
# Numerals

Two written forms of integers. `hex8` writes a word of the mailbox interface in capitals, filled
with zeros to eight places, the sign counted among them. Decimals are written by the standard
library, but not every number is: there is a limit to the digits (`isWritable`). `integer?` reads
the number that a user types, in two steps. The first one takes off what does not change the number:
blanks around it, a plus sign, zeros in front, a point with nothing but zeros after it, and the
underscores that join groups of digits. The second one reads what is left, which has to be the one
plain form of the number: at most a minus sign, and ASCII digits that do not start with a zero,
unless the number is zero.

The order of the first step shows in four places. A minus sign may follow the zeros in front as
well as precede them, and not both (`0-5`). Underscores among the zeros go with the zeros, however
many there are (`0__7`), while elsewhere each stands alone between two other characters. Where the
zeros end in a point, or in nothing, one character of them stays, and counts as the number itself
(`00.0`, and `0_`, which is refused). And the limit of 4300 digits is for the plain form only, so
that a number that was read can be written (`isWritable_of_integer?`).

The information separators are blanks elsewhere and not here: next to one, a text is no number.
-/

set_option autoImplicit false

namespace DeviceKeys.Text

/-- The most digits that a number may have, be it read or written. It is irreducible so that no
proof comes to compute the power of ten with as many zeros. -/
@[irreducible] def maxDigits : Nat := 4300

/-! ## Writing -/

/-- Whether a number has few enough digits to be written in decimal; the sign is none of them. -/
def isWritable (n : Int) : Bool := (Nat.toDigits 10 n.natAbs).length ≤ maxDigits

theorem isWritable_iff {n : Int} :
    isWritable n = true ↔ (Nat.toDigits 10 n.natAbs).length ≤ maxDigits := decide_eq_true_iff

theorem isWritable_eq_false_iff {n : Int} :
    isWritable n = false ↔ maxDigits < (Nat.toDigits 10 n.natAbs).length := by
  rw [← Bool.not_eq_true, isWritable_iff, Nat.not_le]

def upperDigit (n : Nat) : Char :=
  if n < 10 then Char.ofNat (48 + n) else Char.ofNat (55 + n)

/-- `digits` in capitals, without a sign, filled with zeros to `width` places. -/
def upperHex (width n : Nat) : String :=
  let digits := (Nat.toDigits 16 n).map Char.toUpper
  String.ofList (List.replicate (width - digits.length) '0' ++ digits)

def hex8 (n : Int) : String :=
  if n < 0 then "-" ++ upperHex 7 n.natAbs else upperHex 8 n.natAbs

/-! ## Reading -/

def isSeparator (c : Char) : Bool := 0x1C ≤ c.toNat && c.toNat ≤ 0x1F

/-- The blanks that may stand around a numeral. -/
def surroundsNumeral (c : Char) : Bool := isBlank c && !isSeparator c

/-- What follows zeros, the last of which, or the last underscore among them, is `last`. -/
def afterZeros? (last : Char) : List Char → Option (List Char)
  | [] => some [last]
  | c :: rest =>
    if c == '0' || c == '_' then afterZeros? c rest
    else if c == '.' then some (last :: c :: rest)
    else if c.isDigit || c == '-' then some (c :: rest)
    else none

/-- Takes off the zeros in front of a numeral, which has to start with a digit. -/
def dropZeros? : List Char → Option (List Char)
  | [] => none
  | c :: rest =>
    if c == '0' then afterZeros? c rest else if c.isDigit then some (c :: rest) else none

/-- Takes off a plus sign and the zeros behind the sign. -/
def dropFront? : List Char → Option (List Char)
  | '+' :: rest => dropZeros? rest
  | '-' :: rest => (dropZeros? rest).map ('-' :: ·)
  | rest => dropZeros? rest

/-- Takes off the first point and what follows it, if that is zeros, and at least one. -/
def dropPlaces (cs : List Char) : List Char :=
  match cs.dropWhile (· != '.') with
  | _ :: c :: places =>
    if (c :: places).all (· == '0') then cs.takeWhile (· != '.') else cs
  | _ => cs

/-- Takes out the underscores; `after` tells that another character stands in front, without which
neither an underscore nor the end may follow. -/
def joinGroups? (after : Bool) : List Char → Option (List Char)
  | [] => if after then some [] else none
  | c :: rest =>
    if c == '_' then if after then joinGroups? false rest else none
    else (joinGroups? true rest).map (c :: ·)

/-- Whether digits are the plain form of a natural number. -/
def isPlain (cs : List Char) : Bool :=
  cs.all Char.isDigit && (cs == ['0'] || (cs.head?.any (· != '0') && cs.length ≤ maxDigits))

def natural? (cs : List Char) : Option Nat :=
  if isPlain cs then some (cs.foldl (fun value c => 10 * value + (c.toNat - 48)) 0) else none

theorem length_of_isPlain {cs : List Char} (plain : isPlain cs = true) : cs.length ≤ maxDigits := by
  simp only [isPlain, Bool.and_eq_true, Bool.or_eq_true, beq_iff_eq, decide_eq_true_eq] at plain
  obtain ⟨-, rfl | ⟨-, fits⟩⟩ := plain
  · decide +kernel
  · exact fits

/-- Each digit behind a number makes it at most ten times larger. -/
theorem foldl_digits_lt {cs : List Char} (digits : cs.all Char.isDigit = true) (value : Nat) :
    cs.foldl (fun value c => 10 * value + (c.toNat - 48)) value <
      (value + 1) * Nat.pow 10 cs.length := by
  induction cs generalizing value with
  | nil => exact Nat.lt_of_lt_of_eq (Nat.lt_succ_self value) (Nat.mul_one _).symm
  | cons c rest ih =>
    simp only [List.all_cons, Bool.and_eq_true] at digits
    have digit : c.toNat - 48 ≤ 9 := by
      have upper := digits.1
      simp only [Char.isDigit, Bool.and_eq_true, decide_eq_true_eq, UInt32.le_iff_toNat_le] at upper
      have nine : '9'.val.toNat = 57 := rfl
      simp only [Char.toNat]
      omega
    calc rest.foldl _ (10 * value + (c.toNat - 48))
      _ < (10 * value + (c.toNat - 48) + 1) * Nat.pow 10 rest.length := ih digits.2 _
      _ ≤ (value + 1) * 10 * Nat.pow 10 rest.length := Nat.mul_le_mul_right _ (by omega)
      _ = (value + 1) * (Nat.pow 10 rest.length * 10) := by rw [Nat.mul_assoc, Nat.mul_comm 10]

/-- A natural number that was read has no more digits than a number may have. -/
theorem length_toDigits_of_natural? {cs : List Char} {n : Nat} (read : natural? cs = some n) :
    (Nat.toDigits 10 n).length ≤ maxDigits := by
  unfold natural? at read
  split at read
  · next plain =>
    cases read
    have digits : cs.all Char.isDigit = true := by
      simp only [isPlain, Bool.and_eq_true] at plain
      exact plain.1
    have bound := foldl_digits_lt digits 0
    rw [Nat.zero_add, Nat.one_mul] at bound
    rw [Nat.length_toDigits_le_iff (by decide) (by decide +kernel)]
    exact Nat.lt_of_lt_of_le bound (Nat.pow_le_pow_right (by decide) (length_of_isPlain plain))
  · cases read

/-- The integer that a text stands for, if it is a numeral. -/
def integer? (text : String) : Option Int := do
  let front ← dropFront? (trim surroundsNumeral text.toList)
  match ← joinGroups? false (dropPlaces front) with
  | '-' :: digits => (natural? digits).map fun n => -(n : Int)
  | digits => (natural? digits).map fun n => (n : Int)

/-- A number that was read has few enough digits to be written again. -/
theorem isWritable_of_integer? {text : String} {n : Int} (read : integer? text = some n) :
    isWritable n = true := by
  simp only [integer?, Option.bind_eq_bind, Option.bind_eq_some_iff] at read
  obtain ⟨front, -, joined, -, read⟩ := read
  rw [isWritable_iff]
  split at read <;>
    simp only [Option.map_eq_some_iff, Option.bind_eq_some_iff, Option.pure_def,
      Option.some.injEq] at read <;>
    obtain ⟨_, ⟨value, read, rfl⟩, rfl⟩ := read
  · rw [Int.natAbs_neg, Int.natAbs_natCast]
    exact length_toDigits_of_natural? read
  · rw [Int.natAbs_natCast]
    exact length_toDigits_of_natural? read

end DeviceKeys.Text
