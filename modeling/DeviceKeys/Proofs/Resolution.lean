import DeviceKeys.Machine
import DeviceKeys.Settings
import Mathlib.Data.List.Forall2

/-!
# What the environment comes to

Three settings can be given in two places, as an argument and as a variable, and each can also be
left out. A value that was given as an argument counts, even if it is empty or false; else that of
the variable counts, even if it is empty; else the setting has its standard value. Nothing of this
can fail: the record of fields that is put together in this way is one that no reader refuses.

The region alone is not taken from its variable as it stands. The variable is stripped of blanks and
made small, and looked up among four words. What that accepts is told here without either of these
steps (`Affirms`): blanks, a word whose letters are each small or capital, and blanks. The small
form of a text is that of all of Unicode, so this has to rule out every other character whose small
form is a letter of a word. There is one character beyond ASCII with such a form that is not longer
than itself, the kelvin sign, and no word has a k.
-/

set_option autoImplicit false

namespace DeviceKeys

/-! ## Words in any mix of cases -/

namespace Text

/-- The characters are those of a word, each of them as it is there or as its capital. -/
def Spells (letters cs : List Char) : Prop :=
  List.Forall₂ (fun c letter => c = letter ∨ c = letter.toUpper) cs letters

/-- A character that is ASCII, is no capital, and is not the one letter of ASCII that is the small
form of something else as well. -/
def IsPlain (letter : Char) : Prop :=
  letter ≠ 'k' ∧ letter.toNat < 128 ∧ letter.toLower = letter
  deriving Decidable

theorem eq_or_eq_toUpper {c : Char} (ascii : c.toNat < 128) :
    c = c.toLower ∨ c = c.toLower.toUpper :=
  forall_ascii (P := fun c => c = c.toLower ∨ c = c.toLower.toUpper) (by decide +kernel) ascii

namespace IsPlain

variable {c letter : Char}

theorem toUpper (plain : IsPlain letter) :
    letter.toUpper.toNat < 128 ∧ letter.toUpper.toLower = letter := by
  have small := forall_ascii (P := fun letter => letter.toLower = letter →
    letter.toUpper.toNat < 128 ∧ letter.toUpper.toLower = letter) (by decide +kernel) plain.2.1
  exact small plain.2.2

theorem toLower_eq (plain : IsPlain letter) (h : c = letter ∨ c = letter.toUpper) :
    c.toLower = letter := by
  rcases h with rfl | rfl
  · exact plain.2.2
  · exact plain.toUpper.2

end IsPlain

namespace Spells

variable {letters cs : List Char}

/-- What holds of the letters of a word and of their capitals holds of what spells the word. -/
theorem forall_mem {P : Char → Prop} (h : Spells letters cs)
    (both : ∀ letter ∈ letters, P letter ∧ P letter.toUpper) : ∀ c ∈ cs, P c := by
  induction h with
  | nil => exact List.forall_mem_nil _
  | cons same rest ih =>
    rw [List.forall_mem_cons] at both ⊢
    refine ⟨?_, ih both.2⟩
    rcases same with rfl | rfl
    · exact both.1.1
    · exact both.1.2

theorem ascii (h : Spells letters cs) (plain : ∀ letter ∈ letters, IsPlain letter) :
    ∀ c ∈ cs, c.toNat < 128 :=
  h.forall_mem fun letter mem => ⟨(plain letter mem).2.1, (plain letter mem).toUpper.1⟩

theorem map_toLower (h : Spells letters cs) (plain : ∀ letter ∈ letters, IsPlain letter) :
    cs.map Char.toLower = letters := by
  induction h with
  | nil => rfl
  | cons same rest ih =>
    rw [List.forall_mem_cons] at plain
    rw [List.map_cons, plain.1.toLower_eq same, ih plain.2]

end Spells

/-- A text with this small form is the word in some mix of cases, and in no other letters. -/
theorem lower_eq_iff {letters cs : List Char} (plain : ∀ letter ∈ letters, IsPlain letter) :
    lower cs = letters ↔ Spells letters cs := by
  constructor
  · rintro rfl
    have ascii : ∀ c ∈ cs, c.toNat < 128 :=
      ascii_of_lower fun d mem => ⟨(plain d mem).1, (plain d mem).2.1⟩
    rw [lower_of_ascii ascii, Spells, List.forall₂_map_right_iff, List.forall₂_same]
    exact fun c mem => eq_or_eq_toUpper (ascii c mem)
  · intro spelled
    rw [lower_of_ascii (spelled.ascii plain), spelled.map_toLower plain]

/-! ## Between blanks -/

theorem dropWhile_of_none {p : Char → Bool} {cs : List Char} (none : ∀ c ∈ cs, p c = false) :
    cs.dropWhile p = cs := by
  cases cs with
  | nil => rfl
  | cons c rest => exact List.dropWhile_cons_of_neg (by simp [none c List.mem_cons_self])

/-- What stands between two runs of characters is left when those are taken off. -/
theorem trim_of_between {p : Char → Bool} {before word after : List Char}
    (leading : ∀ c ∈ before, p c = true) (inside : ∀ c ∈ word, p c = false)
    (trailing : ∀ c ∈ after, p c = true) (filled : word ≠ []) :
    trim p (before ++ word ++ after) = word := by
  have first : (word ++ after).dropWhile p = word ++ after := by
    obtain ⟨c, rest, rfl⟩ := List.exists_cons_of_ne_nil filled
    exact List.dropWhile_cons_of_neg (by simp [inside c List.mem_cons_self])
  have last : word.reverse.dropWhile p = word.reverse :=
    dropWhile_of_none fun c mem => inside c (List.mem_reverse.1 mem)
  rw [trim, List.append_assoc, dropWhile_append_of_head _ leading, first, List.reverse_append,
    dropWhile_append_of_head _ fun c mem => trailing c (List.mem_reverse.1 mem), last,
    List.reverse_reverse]

end Text

/-! ## The four words -/

namespace Environment

/-- A text that switches something on: a word in any mix of cases, with nothing but blanks around
it. -/
def Affirms (text : String) : Prop :=
  ∃ before word after, text.toList = before ++ word ++ after ∧
    (∀ c ∈ before, Text.isBlank c = true) ∧ (∀ c ∈ after, Text.isBlank c = true) ∧
    ∃ letters ∈ ["1", "true", "yes", "on"], Text.Spells letters.toList word

theorem truthyWords_plain : ∀ letters ∈ truthyWords, letters.toList ≠ [] ∧
    ∀ letter ∈ letters.toList, Text.IsPlain letter ∧
      Text.isBlank letter = false ∧ Text.isBlank letter.toUpper = false := by
  -- Bounded by the letters of a word, and not by all characters there are.
  have checked : (truthyWords.all fun letters => decide (letters.toList ≠ []) &&
      letters.toList.all fun letter => decide (Text.IsPlain letter ∧
        Text.isBlank letter = false ∧ Text.isBlank letter.toUpper = false)) = true := by
    decide +kernel
  simpa only [List.all_eq_true, Bool.and_eq_true, decide_eq_true_eq] using checked

/-- A spelled word is not empty, and has no blank in it. -/
theorem solid_of_spells {letters : String} {word : List Char} (known : letters ∈ truthyWords)
    (spelled : Text.Spells letters.toList word) :
    word ≠ [] ∧ ∀ c ∈ word, Text.isBlank c = false := by
  obtain ⟨filled, plain⟩ := truthyWords_plain letters known
  refine ⟨?_, spelled.forall_mem fun letter mem => (plain letter mem).2⟩
  rintro rfl
  exact filled (List.forall₂_nil_left_iff.1 spelled)

/-- The words that affirm, in any mix of cases and between any blanks. -/
theorem isTruthy_iff (text : String) : isTruthy text = true ↔ Affirms text := by
  have plain : ∀ letters ∈ truthyWords, ∀ letter ∈ letters.toList, Text.IsPlain letter :=
    fun letters known letter mem => ((truthyWords_plain letters known).2 letter mem).1
  rw [isTruthy, List.contains_iff_mem]
  constructor
  · intro known
    obtain ⟨before, after, split, leading, trailing⟩ :=
      Text.exists_trim Text.isBlank text.toList
    refine ⟨before, _, after, split, leading, trailing, _, known, ?_⟩
    rw [← Text.lower_eq_iff (plain _ known), String.toList_ofList]
    rfl
  · rintro ⟨before, word, after, split, leading, trailing, letters, known, spelled⟩
    obtain ⟨filled, inside⟩ := solid_of_spells known spelled
    have stripped : Text.strip text.toList = word := by
      rw [split]
      exact Text.trim_of_between leading inside trailing filled
    rw [stripped, (Text.lower_eq_iff (plain _ known)).2 spelled, String.ofList_toList]
    exact known

-- Blanks beyond ASCII are taken off; an `ſ`, though its capital is an `S`, spells nothing.
example : isTruthy "\u2003oN\n" = true ∧ isTruthy "yeſ" = false := by decide +kernel

/-- What a text has to be like to switch something on. -/
structure IsOneWord (text : String) : Prop where
  known : ∃ letters ∈ ["1", "true", "yes", "on"],
    Text.Spells letters.toList (Text.strip text.toList)
  /-- A blank stands in front of the word or behind it. -/
  unbroken : ∀ left c right, text.toList = left ++ c :: right → Text.isBlank c = true →
    (∀ d ∈ left, Text.isBlank d = true) ∨ ∀ d ∈ right, Text.isBlank d = true
  ascii : ∀ c ∈ text.toList, Text.isBlank c = false → c.toNat < 128

theorem Affirms.isOneWord {text : String} (h : Affirms text) : IsOneWord text := by
  obtain ⟨before, word, after, split, leading, trailing, letters, known, spelled⟩ := h
  obtain ⟨filled, inside⟩ := solid_of_spells known spelled
  have plain := (truthyWords_plain letters known).2
  refine ⟨⟨letters, known, ?_⟩, ?_, ?_⟩
  · rwa [split, Text.strip, Text.trim_of_between leading inside trailing filled]
  · intro left c right cut blank
    rw [split, List.append_assoc, List.append_eq_append_iff] at cut
    rcases cut with ⟨behind, rfl, cut⟩ | ⟨more, rfl, -⟩
    · -- The blank does not stand in front of the word, so it stands behind it or in it.
      rw [List.append_eq_append_iff] at cut
      rcases cut with ⟨gap, -, rfl⟩ | ⟨tail, rfl, cut⟩
      · exact .inr fun d mem => trailing d (List.mem_append_right _ (List.mem_cons_of_mem _ mem))
      · cases tail with
        | nil =>
          rw [List.nil_append] at cut
          exact .inr fun d mem => trailing d (cut ▸ List.mem_cons_of_mem _ mem)
        | cons d rest =>
          obtain rfl := List.head_eq_of_cons_eq cut
          have solid := inside c (List.mem_append_right _ List.mem_cons_self)
          exact absurd blank (by simp [solid])
    · exact .inl fun d mem => leading d (List.mem_append_left _ mem)
  · intro c mem solid
    rw [split, List.mem_append, List.mem_append] at mem
    rcases mem with (mem | mem) | mem
    · exact absurd (leading c mem) (by simp [solid])
    · exact spelled.ascii (fun letter mem => (plain letter mem).1) c mem
    · exact absurd (trailing c mem) (by simp [solid])

end Environment

/-! ## The settings -/

namespace Settings

/-- The warning about an override. It names the variable and says nothing of its value. -/
def overrideWarning : Record :=
  ⟨.warning, "FAKE_RPI_DERIVE_KEY_SECRET is set, using a fake device secret instead of OTP memory"⟩

/-- The record that is put together of the arguments and the variables, before anything is known
about its fields. A variable that is not set is no value, except that of the region, which then
counts as empty. -/
def gathered (env : Environment) (customerRegion : Option Bool) (salt : Option String) : Fields :=
  [("use_customer_otp",
      .bool (customerRegion.getD (Environment.isTruthy (env.customer.getD "")))),
    ("fake_secret", (env.override.map FieldValue.text).getD .null),
    ("salt", ((salt.or env.salt).map FieldValue.text).getD .null)]

variable (env : Environment) (customerRegion : Option Bool) (salt : Option String) (m : Machine)

/-- The gathered fields are accepted, whatever the environment says. -/
theorem ofFields_gathered : ofFields (gathered env customerRegion salt) =
    .ok (ofEnvironment env customerRegion salt) := by
  have empty : Environment.isTruthy "" = false := by decide +kernel
  have region : Environment.isTruthy (env.customer.getD "") =
      (env.customer.map Environment.isTruthy).getD false := by
    cases env.customer with
    | none => exact empty
    | some text => rfl
  unfold gathered ofEnvironment
  rw [region]
  cases env.override <;> cases salt.or env.salt <;> rfl

theorem run_load_eq : (load env customerRegion salt).run m =
    (ofEnvironment env customerRegion salt,
      { m with log := m.log ++ if env.override.isSome then [overrideWarning] else [] }) := by
  unfold load
  split
  · rfl
  · rw [List.append_nil]
    rfl

/-- What is made of the environment on a machine, setting by setting. -/
structure Resolved : Prop where
  /-- The readers of the fields accept the record, and make these settings of it. -/
  accepted : ofFields (gathered env customerRegion salt) =
    .ok ((load env customerRegion salt).run m).1
  region_given : ∀ flag, customerRegion = some flag →
    ((load env customerRegion salt).run m).1.customerRegion = flag
  region_found : customerRegion = none →
    (((load env customerRegion salt).run m).1.customerRegion = true ↔
      ∃ text, env.customer = some text ∧ Environment.Affirms text)
  one_word : ∀ text, Environment.Affirms text → Environment.IsOneWord text
  salt_given : ∀ text, salt = some text →
    ((load env customerRegion salt).run m).1.salt = some (Bytes.ofText text)
  salt_found : salt = none →
    ((load env customerRegion salt).run m).1.salt = env.salt.map Bytes.ofText
  /-- There is an override exactly if its variable is set, and it is what the variable says. -/
  override : ((load env customerRegion salt).run m).1.override = env.override
  /-- All that is seen of it is one warning, and that exactly if there is an override. -/
  warned : ((load env customerRegion salt).run m).2 =
    { m with log := m.log ++ if env.override.isSome then [overrideWarning] else [] }

/-- Arguments count before variables, and a flag affirms if its text is one of the four words between
blanks, in any mix of cases. -/
theorem environment_resolved : Resolved env customerRegion salt m := by
  have loaded := run_load_eq env customerRegion salt m
  refine ⟨?_, ?_, ?_, fun _ affirmed => affirmed.isOneWord, ?_, ?_, ?_, ?_⟩
  · rw [loaded]
    exact ofFields_gathered env customerRegion salt
  · rintro flag rfl
    rw [loaded]
    rfl
  · rintro rfl
    rw [loaded]
    cases found : env.customer with
    | none => simp [ofEnvironment, found]
    | some text => simp [ofEnvironment, found, Environment.isTruthy_iff]
  · rintro text rfl
    rw [loaded]
    rfl
  · rintro rfl
    rw [loaded]
    rfl
  · rw [loaded]
    rfl
  · rw [loaded]

end Settings

end DeviceKeys
