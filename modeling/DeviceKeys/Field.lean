import DeviceKeys.Bytes

/-!
# Reading the fields of a record

Settings and reports can be built from loose values that somebody wrote down: a flag may
come as a number or as a word, a text as its bytes. This module says which values each kind of
field accepts and, where one is refused, for which reason. The readers are generous about the form
of a value and never about its content: a text loses no blank and no case, bytes are text only if
they are its UTF-8 form, and no number is ever a text.
-/

set_option autoImplicit false

namespace DeviceKeys

/-- A value as it stands in a record before anything is known about its field. -/
inductive FieldValue where
  | null
  | bool (value : Bool)
  | integer (value : Int)
  /-- A number that is no integer. -/
  | fraction
  | text (value : String)
  | bytes (value : Bytes)
  /-- A list or a nested record, which no field accepts. -/
  | compound
  deriving DecidableEq, Repr

/-- The values of a record by name; of two under one name the first counts. -/
abbrev Fields := List (String × FieldValue)

/-- Why a field refuses a value. -/
inductive FieldProblem where
  | missing
  | notFlag
  | unknownFlagWord
  | notText
  | notUtf8
  | emptyText
  | notBytes
  | unknownState
  deriving DecidableEq, Repr

namespace FieldProblem

/-- The short name under which a refusal is reported. -/
def code : FieldProblem → String
  | missing => "missing"
  | notFlag => "bool_type"
  | unknownFlagWord => "bool_parsing"
  | notText => "string_type"
  | notUtf8 => "string_unicode"
  | emptyText => "string_too_short"
  | notBytes => "bytes_type"
  | unknownState => "enum"

def message : FieldProblem → String
  | missing => "Field required"
  | notFlag => "Input should be a valid boolean"
  | unknownFlagWord => "Input should be a valid boolean, unable to interpret input"
  | notText => "Input should be a valid string"
  | notUtf8 =>
    "Input should be a valid string, unable to parse raw data as a unicode string"
  | emptyText => "String should have at least 1 character"
  | notBytes => "Input should be a valid bytes"
  | unknownState => "Input should be 'uninitialized', 'initialized' or 'unsupported'"

end FieldProblem

/-- A refused field. -/
structure FieldError where
  field : String
  problem : FieldProblem
  deriving DecidableEq, Repr

namespace FieldValue

/-! ## Flags -/

def falseWords : List String := ["0", "off", "f", "false", "n", "no"]

def trueWords : List String := ["1", "on", "t", "true", "y", "yes"]

/-- A word for a flag, in any mix of cases. Only ASCII letters are lowered: no other character has
an ASCII lowercase form that occurs in one of the words. -/
def flagOfWord (word : String) : Except FieldProblem Bool :=
  let lowered := word.map Char.toLower
  if falseWords.contains lowered then .ok false
  else if trueWords.contains lowered then .ok true
  else .error .unknownFlagWord

/-- A number is a flag if it is zero or one; one too large for 64 bits is no number at all here. -/
def flagOfInteger (n : Int) : Except FieldProblem Bool :=
  if n < -0x8000000000000000 ∨ 0x8000000000000000 ≤ n then .error .notFlag
  else if n = 0 then .ok false
  else if n = 1 then .ok true
  else .error .unknownFlagWord

def flag : FieldValue → Except FieldProblem Bool
  | bool value => .ok value
  | integer n => flagOfInteger n
  | text word => flagOfWord word
  | bytes raw =>
    match Bytes.text? raw with
    | some word => flagOfWord word
    | none => .error .unknownFlagWord
  | null | fraction | compound => .error .notFlag

/-! ## Text and bytes -/

/-- A text that may be left out. Bytes that are no UTF-8 are no text either. -/
def optionalText : FieldValue → Except FieldProblem (Option String)
  | null => .ok none
  | text value => .ok (some value)
  | bytes raw =>
    match Bytes.text? raw with
    | some value => .ok (some value)
    | none => .error .notText
  | bool _ | integer _ | fraction | compound => .error .notText

/-- Bytes that may be left out; a text stands for its UTF-8 form. -/
def optionalBytes : FieldValue → Except FieldProblem (Option Bytes)
  | null => .ok none
  | text value => .ok (some (Bytes.ofText value))
  | bytes raw => .ok (some raw)
  | bool _ | integer _ | fraction | compound => .error .notBytes

/-- A text that may not be empty. Here, bytes that are no UTF-8 have a refusal of their own. -/
def nonemptyText : FieldValue → Except FieldProblem String
  | text value => atLeastOne value
  | bytes raw =>
    match Bytes.text? raw with
    | some value => atLeastOne value
    | none => .error .notUtf8
  | null | bool _ | integer _ | fraction | compound => .error .notText
where
  atLeastOne (value : String) : Except FieldProblem String :=
    if value.isEmpty then .error .emptyText else .ok value

end FieldValue

namespace Fields

def value? (fields : Fields) (name : String) : Option FieldValue :=
  List.lookup name fields

/-- Reads one field, `absent` standing for its value when the record does not have it. -/
def read {α : Type} (fields : Fields) (name : String) (absent : Except FieldProblem α)
    (reader : FieldValue → Except FieldProblem α) : Except FieldError α :=
  ((value? fields name).elim absent reader).mapError (⟨name, ·⟩)

/-- The refusal of a field, if it was refused. -/
def refusal {α : Type} : Except FieldError α → List FieldError
  | .ok _ => []
  | .error err => [err]

end Fields

end DeviceKeys
