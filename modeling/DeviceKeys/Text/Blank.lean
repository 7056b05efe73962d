/-!
# Blank characters

A blank is a character that separates words and shows as nothing: the layout controls, the four
information separators, the space, and the wider and narrower spaces of Unicode. The zero-width
characters are not blank, since they stand inside a word. `strip` takes the blanks off both ends
of a text and leaves those between words alone.
-/

set_option autoImplicit false

namespace DeviceKeys.Text

/-- The blanks, as inclusive ranges of code points in order. -/
def blankRanges : List (Nat × Nat) :=
  [(0x09, 0x0D), (0x1C, 0x20), (0x85, 0x85), (0xA0, 0xA0), (0x1680, 0x1680), (0x2000, 0x200A),
    (0x2028, 0x2029), (0x202F, 0x202F), (0x205F, 0x205F), (0x3000, 0x3000)]

def isBlank (c : Char) : Bool :=
  blankRanges.any fun (first, last) => first ≤ c.toNat && c.toNat ≤ last

/-- Takes the characters that satisfy `p` off both ends. -/
def trim (p : Char → Bool) (cs : List Char) : List Char :=
  ((cs.dropWhile p).reverse.dropWhile p).reverse

def strip (cs : List Char) : List Char := trim isBlank cs

theorem dropWhile_append_of_head {p : Char → Bool} {xs : List Char} (ys : List Char)
    (h : ∀ c ∈ xs, p c = true) : (xs ++ ys).dropWhile p = ys.dropWhile p := by
  induction xs with
  | nil => rfl
  | cons x rest ih =>
    rw [List.cons_append, List.dropWhile_cons, if_pos (h x (by simp)),
      ih fun c hc => h c (by simp [hc])]

/-- A text is what `trim` leaves, between two runs of characters that satisfy `p`. -/
theorem exists_trim (p : Char → Bool) (cs : List Char) :
    ∃ before after, cs = before ++ trim p cs ++ after ∧
      (∀ c ∈ before, p c = true) ∧ ∀ c ∈ after, p c = true := by
  refine ⟨cs.takeWhile p, ((cs.dropWhile p).reverse.takeWhile p).reverse, ?_, ?_, ?_⟩
  · rw [trim, List.append_assoc, ← List.reverse_append, List.takeWhile_append_dropWhile,
      List.reverse_reverse, List.takeWhile_append_dropWhile]
  · intro c hc; exact List.all_eq_true.1 List.all_takeWhile c hc
  · intro c hc; exact List.all_eq_true.1 List.all_takeWhile c (List.mem_reverse.1 hc)

end DeviceKeys.Text
