import DeviceKeys.Session
import DeviceKeys.Vault

/-!
# Texts and their bytes

Wherever a text can be given, its UTF-8 form can be given in its place: as the label of a key, and
as any field of a record of settings. Each place has a way of its own from there to the bytes that
are used. A label and a salt are encoded as soon as they are read; the text of an override is kept,
and encoded when its bytes are asked for; a path stays a text, so that its bytes are decoded.

To say it for all places at once, everything that can be given is brought into one form, in which no
text is left (`inBytes`). Two ways to give the same things, text here and bytes there in any mix,
have that form in common, and it leads to the same programs, step by step and over whole sessions.

The other way round, bytes need not be the form of a text. Then a salt keeps them as they are, and
an override is refused.
-/

set_option autoImplicit false

namespace DeviceKeys

/-- Bytes that are the UTF-8 forms of some characters, one after the other. -/
def Bytes.IsUtf8 (bytes : Bytes) : Prop :=
  ∃ cs : List Char, cs.flatMap String.utf8EncodeChar = bytes

/-- To have a form made of characters is to be the form of a text. -/
theorem Bytes.isUtf8_iff {bytes : Bytes} : IsUtf8 bytes ↔ ∃ text, ofText text = bytes := by
  constructor
  · rintro ⟨cs, rfl⟩
    exact ⟨String.ofList cs, by rw [ofText_eq_flatMap, String.toList_ofList]⟩
  · rintro ⟨text, rfl⟩
    exact ⟨text.toList, (ofText_eq_flatMap text).symm⟩

theorem Bytes.text?_eq_none_iff {bytes : Bytes} : text? bytes = none ↔ ¬IsUtf8 bytes := by
  rw [isUtf8_iff, Option.eq_none_iff_forall_ne_some, not_exists]
  exact forall_congr' fun text => not_congr text?_eq_some_iff

/-! ## Without texts -/

def Label.inBytes : Label → Label
  | .text value => .bytes (Bytes.ofText value)
  | .bytes value => .bytes value

def FieldValue.inBytes : FieldValue → FieldValue
  | .text value => .bytes (Bytes.ofText value)
  | value => value

def Fields.inBytes (fields : Fields) : Fields :=
  fields.map fun (name, value) => (name, value.inBytes)

def Operation.inBytes : Operation → Operation
  | .key label length => .key label.inBytes length
  | .hexKey label length => .hexKey label.inBytes length
  | .uuid label => .uuid label.inBytes
  | operation => operation

def Step.inBytes : Step → Step
  | .makeSettings name fields => .makeSettings name (Fields.inBytes fields)
  | .operate name operation => .operate name operation.inBytes
  | step => step

def SecretStep.inBytes : SecretStep → SecretStep
  | .key label length salt => .key label.inBytes length salt
  | .uuid label salt => .uuid label.inBytes salt
  | step => step

def VaultStep.inBytes : VaultStep → VaultStep
  | .insert name bytes => .insert name bytes
  | .use name step => .use name step.inBytes

/-! ## Labels -/

theorem Label.toBytes_inBytes (label : Label) : label.inBytes.toBytes = label.toBytes := by
  cases label <;> rfl

namespace Key

variable (secret : RootSecret) (label : Label) (length : Int) (salt : Option Bytes)

/-- All that is made of a label are its bytes. -/
theorem material_inBytes (count : Nat) :
    material secret label.inBytes count salt = material secret label count salt := by
  rw [material, Label.toBytes_inBytes, material]

theorem ofLength_inBytes :
    ofLength secret label.inBytes length salt = ofLength secret label length salt := by
  simp only [ofLength, material_inBytes]

theorem hexOfLength_inBytes :
    hexOfLength secret label.inBytes length salt = hexOfLength secret label length salt := by
  simp only [hexOfLength, ofLength_inBytes]

theorem uuid_inBytes : uuid secret label.inBytes salt = uuid secret label salt := by
  refine congrArg Uuid.ofRandom (Vector.toArray_inj.1 ?_)
  exact congrArg List.toArray (material_inBytes secret label salt uuidSize)

end Key

namespace Vault

/-- A step of a vault reads its labels through their bytes only. -/
theorem advance_inBytes (vault : Vault) (step : VaultStep) :
    vault.advance step.inBytes = vault.advance step := by
  cases step with
  | insert name bytes => rfl
  | use name step =>
    cases step with
    | key label length salt =>
      simp only [VaultStep.inBytes, SecretStep.inBytes, advance, use, answer, after,
        Key.ofLength_inBytes]
    | uuid label salt =>
      simp only [VaultStep.inBytes, SecretStep.inBytes, advance, use, answer, after,
        Key.uuid_inBytes]
    | _ => rfl

theorem play_inBytes (vault : Vault) (steps : List VaultStep) :
    vault.play (steps.map VaultStep.inBytes) = vault.play steps := by
  induction steps generalizing vault with
  | nil => rfl
  | cons step rest ih => simp only [List.map_cons, play, advance_inBytes, ih]

end Vault

/-! ## Fields -/

namespace FieldValue

variable (value : FieldValue)

/-- Every reader of a field decodes bytes to the text that they stand for. -/
theorem flag_inBytes : value.inBytes.flag = value.flag := by
  cases value <;> simp [inBytes, flag]

theorem optionalText_inBytes : value.inBytes.optionalText = value.optionalText := by
  cases value <;> simp [inBytes, optionalText]

theorem optionalBytes_inBytes : value.inBytes.optionalBytes = value.optionalBytes := by
  cases value <;> rfl

/-- A path is decoded from its bytes, and a text is its own decoding. -/
theorem nonemptyText_inBytes : value.inBytes.nonemptyText = value.nonemptyText := by
  cases value <;> simp [inBytes, nonemptyText]

end FieldValue

namespace Fields

theorem value?_inBytes (fields : Fields) (name : String) :
    value? (inBytes fields) name = (value? fields name).map FieldValue.inBytes := by
  induction fields with
  | nil => rfl
  | cons field rest ih =>
    obtain ⟨other, value⟩ := field
    simp only [value?, inBytes, List.map_cons, List.lookup_cons] at ih ⊢
    cases name == other with
    | true => rfl
    | false => exact ih

/-- A field that is read alike in both forms is found and refused alike. -/
theorem read_inBytes {α : Type} {reader : FieldValue → Except FieldProblem α}
    (reads : ∀ value : FieldValue, reader value.inBytes = reader value) (fields : Fields)
    (name : String) (absent : Except FieldProblem α) :
    read (inBytes fields) name absent reader = read fields name absent reader := by
  unfold read
  rw [value?_inBytes]
  cases value? fields name with
  | none => rfl
  | some value => exact congrArg (Except.mapError _) (reads value)

end Fields

theorem Settings.ofFields_inBytes (fields : Fields) :
    ofFields (Fields.inBytes fields) = ofFields fields := by
  unfold ofFields
  simp only [Fields.read_inBytes FieldValue.flag_inBytes,
    Fields.read_inBytes FieldValue.optionalText_inBytes,
    Fields.read_inBytes FieldValue.optionalBytes_inBytes,
    Fields.read_inBytes FieldValue.nonemptyText_inBytes]

example : Fields.inBytes [("salt", .text "ü"), ("vcio_path", .bytes [])] =
    Fields.inBytes [("salt", .bytes [0xC3, 0xBC]), ("vcio_path", .text "")] := by decide +kernel

/-! ## Sessions -/

theorem Item.onMedium_inBytes (name : String) (medium : Medium) (operation : Operation) :
    onMedium name medium operation.inBytes = onMedium name medium operation := by
  cases operation <;> rfl

theorem Item.onKeeper_inBytes (name : String) (keeper : Keeper) (operation : Operation) :
    onKeeper name keeper operation.inBytes = onKeeper name keeper operation := by
  cases operation with
  | key label length =>
    simp only [Operation.inBytes, onKeeper, Keeper.key, Key.ofLength_inBytes]
  | hexKey label length =>
    simp only [Operation.inBytes, onKeeper, Keeper.hexKey, Key.hexOfLength_inBytes]
  | uuid label => simp only [Operation.inBytes, onKeeper, Keeper.uuid, Key.uuid_inBytes]
  | _ => rfl

theorem Item.onHandle_inBytes (closedCalls : ClosedCalls) (name : String) (handle : Handle)
    (operation : Operation) :
    onHandle closedCalls name handle operation.inBytes =
      onHandle closedCalls name handle operation := by
  cases operation <;> rfl

namespace Session

theorem operate_inBytes (s : Session) (name : String) (operation : Operation) :
    s.operate name operation.inBytes = s.operate name operation := by
  unfold operate
  simp only [Item.onMedium_inBytes, Item.onKeeper_inBytes, Item.onHandle_inBytes]

/-- Of the steps, fields and labels stand in two of them. -/
theorem perform_inBytes (s : Session) (step : Step) :
    s.perform step.inBytes = s.perform step := by
  cases step with
  | makeSettings name fields => simp only [Step.inBytes, perform, Settings.ofFields_inBytes]
  | operate name operation => exact s.operate_inBytes name operation
  | _ => rfl

theorem advance_inBytes (s : Session) (m : Machine) (step : Step) :
    s.advance m step.inBytes = s.advance m step := by
  unfold advance
  rw [perform_inBytes]
  cases step <;> rfl

theorem play_inBytes (s : Session) (m : Machine) (steps : List Step) :
    s.play m (steps.map Step.inBytes) = s.play m steps := by
  induction steps generalizing s m with
  | nil => rfl
  | cons step rest ih => simp only [List.map_cons, play, advance_inBytes, ih]

end Session

/-! ## Single fields -/

section

variable {fields : Fields}

namespace Fields

variable {α : Type} {name other : String} {value : FieldValue} {absent : Except FieldProblem α}
  {reader : FieldValue → Except FieldProblem α}

theorem read_of_value? (found : value? fields name = some value) :
    read fields name absent reader = (reader value).mapError (⟨name, ·⟩) := by
  rw [read, found]
  rfl

theorem refusal_read {problem : FieldProblem} (found : value? fields name = some value)
    (refused : reader value = .error problem) :
    refusal (read fields name absent reader) = [⟨name, problem⟩] := by
  rw [read_of_value? found, refused]
  rfl

theorem read_cons_self : read ((name, value) :: fields) name absent reader =
    (reader value).mapError (⟨name, ·⟩) := read_of_value? List.lookup_cons_self

theorem read_cons_ne (apart : (name == other) = false) :
    read ((other, value) :: fields) name absent reader = read fields name absent reader := by
  rw [read, read, value?, value?, List.lookup_cons, apart]

end Fields

namespace Settings

/-- The record without its override. -/
def unoverridden (fields : Fields) : Except Error Settings :=
  ofFields (("fake_secret", .null) :: fields)

/-- The record without its salt. -/
def unsalted (fields : Fields) : Except Error Settings := ofFields (("salt", .null) :: fields)

variable {raw : Bytes} {text : String}

/-- A salt of bytes is never refused, and kept as it is. -/
theorem ofFields_salt (found : Fields.value? fields "salt" = some (.bytes raw)) :
    ofFields fields = (unsalted fields).map fun settings => { settings with salt := some raw } := by
  unfold unsalted ofFields
  simp (disch := decide) only [Fields.read_of_value? found, Fields.read_cons_self,
    Fields.read_cons_ne]
  cases fields.read "use_customer_otp" (.ok false) FieldValue.flag with
  | error err => rfl
  | ok region =>
    cases fields.read "fake_secret" (.ok none) FieldValue.optionalText with
    | error err => rfl
    | ok override =>
      cases fields.read "vcio_path" (.ok Mailbox.standardPath) FieldValue.nonemptyText <;> rfl

/-- An override that is a text, in whichever form, is kept as that text. -/
theorem ofFields_override {value : FieldValue}
    (found : Fields.value? fields "fake_secret" = some value)
    (reads : value.optionalText = .ok (some text)) : ofFields fields =
      (unoverridden fields).map fun settings => { settings with override := some text } := by
  unfold unoverridden ofFields
  simp (disch := decide) only [Fields.read_of_value? found, reads, Fields.read_cons_self,
    Fields.read_cons_ne]
  cases fields.read "use_customer_otp" (.ok false) FieldValue.flag with
  | error err => rfl
  | ok region =>
    cases fields.read "salt" (.ok none) FieldValue.optionalBytes with
    | error err => rfl
    | ok salt =>
      cases fields.read "vcio_path" (.ok Mailbox.standardPath) FieldValue.nonemptyText <;> rfl

/-- The fields that are refused, in the order of the report. -/
def refusals (fields : Fields) : List FieldError :=
  Fields.refusal (fields.read "use_customer_otp" (.ok false) FieldValue.flag)
    ++ Fields.refusal (fields.read "fake_secret" (.ok none) FieldValue.optionalText)
    ++ Fields.refusal (fields.read "salt" (.ok none) FieldValue.optionalBytes)
    ++ Fields.refusal (fields.read "vcio_path" (.ok Mailbox.standardPath) FieldValue.nonemptyText)

/-- One field that is refused is enough, and all that are refused are named together. -/
theorem ofFields_of_refusal {refused : FieldError} (among : refused ∈ refusals fields) :
    ofFields fields = .error (.fields (refusals fields)) := by
  revert among
  unfold refusals ofFields
  cases fields.read "use_customer_otp" (.ok false) FieldValue.flag <;>
    cases fields.read "fake_secret" (.ok none) FieldValue.optionalText <;>
    cases fields.read "salt" (.ok none) FieldValue.optionalBytes <;>
    cases fields.read "vcio_path" (.ok Mailbox.standardPath) FieldValue.nonemptyText <;>
    first
      | exact fun _ => rfl
      | exact nofun

/-- An override that is no text is refused, whatever becomes of the other fields. -/
theorem ofFields_override_refused (found : Fields.value? fields "fake_secret" = some (.bytes raw))
    (invalid : ¬Bytes.IsUtf8 raw) :
    ∃ errors, ofFields fields = .error (.fields errors) ∧ ⟨"fake_secret", .notText⟩ ∈ errors := by
  have refused : (FieldValue.bytes raw).optionalText = .error .notText := by
    rw [FieldValue.optionalText, Bytes.text?_eq_none_iff.2 invalid]
  have among : ⟨"fake_secret", .notText⟩ ∈ refusals fields := by
    rw [refusals, Fields.refusal_read found refused]
    simp
  exact ⟨_, ofFields_of_refusal among, among⟩

/-- An empty path is refused in either form. -/
theorem ofFields_path_refused (found : Fields.value? fields "vcio_path" = some (.text "") ∨
      Fields.value? fields "vcio_path" = some (.bytes [])) :
    ∃ errors, ofFields fields = .error (.fields errors) ∧ ⟨"vcio_path", .emptyText⟩ ∈ errors := by
  have among : ⟨"vcio_path", .emptyText⟩ ∈ refusals fields := by
    have text : (FieldValue.text "").nonemptyText = .error .emptyText := rfl
    have bytes : (FieldValue.bytes []).nonemptyText = .error .emptyText := by
      rw [← text, ← FieldValue.nonemptyText_inBytes (.text "")]
      rfl
    rcases found with found | found
    · rw [refusals, Fields.refusal_read found text]
      simp
    · rw [refusals, Fields.refusal_read found bytes]
      simp
  exact ⟨_, ofFields_of_refusal among, among⟩

/-- An override that is given as bytes is accepted exactly if these are UTF-8. -/
theorem exists_ofFields_iff (found : Fields.value? fields "fake_secret" = some (.bytes raw)) :
    (∃ settings, ofFields fields = .ok settings) ↔
      Bytes.IsUtf8 raw ∧ ∃ settings, unoverridden fields = .ok settings := by
  by_cases valid : Bytes.IsUtf8 raw
  · obtain ⟨text, form⟩ := Bytes.isUtf8_iff.1 valid
    have reads : (FieldValue.bytes raw).optionalText = .ok (some text) := by
      rw [FieldValue.optionalText, Bytes.text?_eq_some_iff.2 form]
    rw [ofFields_override found reads, and_iff_right valid]
    cases unoverridden fields with
    | error err => simp [Except.map]
    | ok settings => simp [Except.map]
  · obtain ⟨errors, refused, -⟩ := ofFields_override_refused found valid
    rw [refused]
    exact iff_of_false nofun fun accepted => valid accepted.1

/-- Accepted settings hold the text of their override, in whichever form it was given. -/
theorem override_eq {settings : Settings} (accepted : ofFields fields = .ok settings)
    (found : Fields.value? fields "fake_secret" = some (.text text) ∨
      Fields.value? fields "fake_secret" = some (.bytes (Bytes.ofText text))) :
    settings.override = some text := by
  have made : ofFields fields =
      (unoverridden fields).map fun settings => { settings with override := some text } := by
    rcases found with found | found
    · exact ofFields_override found rfl
    · refine ofFields_override found ?_
      rw [FieldValue.optionalText, Bytes.text?_ofText]
  rw [accepted] at made
  cases plain : unoverridden fields with
  | error err =>
    rw [plain] at made
    cases made
  | ok others =>
    rw [plain] at made
    cases made
    rfl

/-- The bytes of an override are those of its text, whichever form it was given in. -/
theorem overrideBytes_of_override {settings : Settings} (given : settings.override = some text) :
    settings.overrideBytes = .ok (Bytes.ofText text) := by
  rw [overrideBytes, given]

theorem medium_of_override {settings : Settings} (given : settings.override = some text) :
    Medium.ofSettings settings = pure (.override (Bytes.ofText text)) := by
  rw [Medium.ofSettings, given]

end Settings

end

/-! ## The two forms -/

/-- What the forms of a text have in common, and what becomes of bytes that are no text. -/
structure FormsAgree : Prop where
  utf8 : ∀ text : String, Bytes.ofText text = text.toList.flatMap String.utf8EncodeChar
  keys : ∀ (secret : RootSecret) (label label' : Label) (length : Int) (salt : Option Bytes),
    label.inBytes = label'.inBytes →
      Key.ofLength secret label length salt = Key.ofLength secret label' length salt ∧
      Key.hexOfLength secret label length salt = Key.hexOfLength secret label' length salt ∧
      Key.uuid secret label salt = Key.uuid secret label' salt
  vaults : ∀ (vault : Vault) (steps steps' : List VaultStep),
    steps.map VaultStep.inBytes = steps'.map VaultStep.inBytes →
      vault.play steps = vault.play steps'
  /-- The same settings, or the same refusals. -/
  settings : ∀ fields fields' : Fields, fields.inBytes = fields'.inBytes →
    Settings.ofFields fields = Settings.ofFields fields'
  /-- Whole sessions give the same answers, make the same calls, log the same and leave the same
  items and the same machine. -/
  sessions : ∀ (s : Session) (m : Machine) (steps steps' : List Step),
    steps.map Step.inBytes = steps'.map Step.inBytes → s.play m steps = s.play m steps'
  override : ∀ (fields : Fields) (settings : Settings) (text : String),
    Settings.ofFields fields = .ok settings →
    (fields.value? "fake_secret" = some (.text text) ∨
      fields.value? "fake_secret" = some (.bytes (Bytes.ofText text))) →
    settings.overrideBytes = .ok (Bytes.ofText text) ∧
    Medium.ofSettings settings = pure (.override (Bytes.ofText text))
  empty_path : ∀ fields : Fields,
    (fields.value? "vcio_path" = some (.text "") ∨ fields.value? "vcio_path" = some (.bytes [])) →
    ∃ errors, Settings.ofFields fields = .error (.fields errors) ∧
      ⟨"vcio_path", .emptyText⟩ ∈ errors
  /-- Apart from the other fields of its record, whether an override is accepted is up to UTF-8. -/
  override_accepted : ∀ (fields : Fields) (raw : Bytes),
    fields.value? "fake_secret" = some (.bytes raw) →
      ((∃ settings, Settings.ofFields fields = .ok settings) ↔
        Bytes.IsUtf8 raw ∧ ∃ settings, Settings.unoverridden fields = .ok settings)
  override_kept : ∀ (fields : Fields) (settings : Settings) (raw : Bytes),
    Settings.ofFields fields = .ok settings → fields.value? "fake_secret" = some (.bytes raw) →
      settings.overrideBytes = .ok raw ∧ Medium.ofSettings settings = pure (.override raw)
  salt_kept : ∀ (fields : Fields) (raw : Bytes), fields.value? "salt" = some (.bytes raw) →
    Settings.ofFields fields =
      (Settings.unsalted fields).map fun settings => { settings with salt := some raw }

theorem forms_agree : FormsAgree where
  utf8 := Bytes.ofText_eq_flatMap
  keys secret label label' length salt same := by
    rw [← Key.ofLength_inBytes, ← Key.hexOfLength_inBytes, ← Key.uuid_inBytes, same,
      Key.ofLength_inBytes, Key.hexOfLength_inBytes, Key.uuid_inBytes]
    exact ⟨rfl, rfl, rfl⟩
  vaults vault steps steps' same := by
    rw [← vault.play_inBytes steps, same, vault.play_inBytes]
  settings fields fields' same := by
    rw [← Settings.ofFields_inBytes fields, same, Settings.ofFields_inBytes]
  sessions s m steps steps' same := by
    rw [← s.play_inBytes m steps, same, s.play_inBytes]
  override fields settings text accepted found :=
    have given := Settings.override_eq accepted found
    ⟨Settings.overrideBytes_of_override given, Settings.medium_of_override given⟩
  empty_path fields found := Settings.ofFields_path_refused found
  override_accepted fields raw found := Settings.exists_ofFields_iff found
  override_kept fields settings raw accepted found := by
    obtain ⟨text, rfl⟩ := Bytes.isUtf8_iff.1
      ((Settings.exists_ofFields_iff found).1 ⟨settings, accepted⟩).1
    have given := Settings.override_eq accepted (.inr found)
    exact ⟨Settings.overrideBytes_of_override given, Settings.medium_of_override given⟩
  salt_kept fields raw found := Settings.ofFields_salt found

end DeviceKeys
