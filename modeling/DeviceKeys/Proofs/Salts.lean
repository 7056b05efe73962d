import DeviceKeys.Proofs.KeyStability
import DeviceKeys.Proofs.Options

/-!
# Salts that give the same keys

A salt has a say in a key through one block of HMAC and in no other way (`Hkdf.saltBlock`). That
block is 72 bytes long and a digest is 64, so the zeros that stand for a missing salt, the empty
salt and a salt of zeros take different ways and meet only where the block is filled up. Two salts
with one block can take each other's place wherever a salt is given (`Interchangeable`): in a
derivation, in the settings of a keeper, which then is the same program, and in a command.

The converse is not claimed: that other blocks give other keys is a property of the hash.
-/

set_option autoImplicit false

namespace DeviceKeys

/-! ## The block of a salt -/

namespace Hkdf

/-- The block of HMAC that a salt comes to. -/
def saltBlock (salt : Option Bytes) : Bytes :=
  Hmac.blockKey (salt.getD (List.replicate digestSize 0))

variable {salt other : Option Bytes}

theorem extract_congr (same : saltBlock salt = saltBlock other) (secret : Bytes) :
    extract salt secret = extract other secret := Hmac.authenticate_congr same secret

theorem saltBlock_zeros {count : Nat} (fits : count ≤ Hmac.blockSize) :
    saltBlock (some (List.replicate count 0)) = Hmac.blockKey [] := by
  have within : ([] : Bytes).length + count ≤ Hmac.blockSize := by simpa using fits
  exact Hmac.blockKey_append_zeros within

theorem saltBlock_none : saltBlock none = Hmac.blockKey [] :=
  saltBlock_zeros (show digestSize ≤ Hmac.blockSize by decide)

/-- The zeros that stand for a missing salt are fewer than those of the block. -/
example : saltBlock none = List.replicate 72 0 := by decide

end Hkdf

/-! ## Keys -/

namespace Key

open Hkdf (saltBlock)

variable {salt other : Option Bytes}

theorem material_congr (same : saltBlock salt = saltBlock other) (secret : RootSecret)
    (label : Label) (length : Nat) :
    material secret label length salt = material secret label length other := by
  rw [material, material, Hkdf.extract_congr same]

theorem ofLength_congr (same : saltBlock salt = saltBlock other) (secret : RootSecret)
    (label : Label) (length : Int) :
    ofLength secret label length salt = ofLength secret label length other := by
  rw [ofLength, ofLength, material_congr same]

theorem hexOfLength_congr (same : saltBlock salt = saltBlock other) (secret : RootSecret)
    (label : Label) (length : Int) :
    hexOfLength secret label length salt = hexOfLength secret label length other := by
  rw [hexOfLength, hexOfLength, ofLength_congr same]

theorem uuid_congr (same : saltBlock salt = saltBlock other) (secret : RootSecret)
    (label : Label) : uuid secret label salt = uuid secret label other := by
  refine congrArg Uuid.ofRandom (Vector.toArray_inj.1 ?_)
  exact congrArg List.toArray (material_congr same secret label uuidSize)

end Key

/-! ## Keepers and commands -/

/-- The same settings with another salt. -/
def Settings.withSalt (settings : Settings) (salt : Option Bytes) : Settings :=
  { settings with salt }

/-- Whether one salt can take the place of another. A keeper and a command are then the same
programs: they ask the same and give the same for the same answers, failures included. -/
structure Interchangeable (salt other : Option Bytes) : Prop where
  keys : ∀ (secret : RootSecret) (label : Label) (length : Int),
    Key.ofLength secret label length salt = Key.ofLength secret label length other
  hexKeys : ∀ (secret : RootSecret) (label : Label) (length : Int),
    Key.hexOfLength secret label length salt = Key.hexOfLength secret label length other
  uuids : ∀ (secret : RootSecret) (label : Label),
    Key.uuid secret label salt = Key.uuid secret label other
  keepers : ∀ (settings : Settings) (medium : Medium) (label : Label) (form : KeyForm),
    Keeper.derive ⟨settings.withSalt salt, medium⟩ label form =
      Keeper.derive ⟨settings.withSalt other, medium⟩ label form
  commands : ∀ (settings : Settings) (command : CommandLine.Command),
    CommandLine.execute (settings.withSalt salt) command =
      CommandLine.execute (settings.withSalt other) command

section

open Hkdf (saltBlock)

variable {salt other : Option Bytes} (settings : Settings)

namespace Keeper

variable (medium : Medium) (label : Label)

theorem key_congr (same : saltBlock salt = saltBlock other) (length : Int) :
    key ⟨settings.withSalt salt, medium⟩ label length =
      key ⟨settings.withSalt other, medium⟩ label length := by
  refine congrArg (secret ⟨settings, medium⟩ >>= ·) (funext fun secret => ?_)
  exact congrArg (Program.ofExcept · >>= _) (Key.ofLength_congr same secret label length)

theorem hexKey_congr (same : saltBlock salt = saltBlock other) (length : Int) :
    hexKey ⟨settings.withSalt salt, medium⟩ label length =
      hexKey ⟨settings.withSalt other, medium⟩ label length := by
  refine congrArg (secret ⟨settings, medium⟩ >>= ·) (funext fun secret => ?_)
  exact congrArg Program.ofExcept (Key.hexOfLength_congr same secret label length)

theorem uuid_congr (same : saltBlock salt = saltBlock other) :
    uuid ⟨settings.withSalt salt, medium⟩ label = uuid ⟨settings.withSalt other, medium⟩ label := by
  refine congrArg (secret ⟨settings, medium⟩ >>= ·) (funext fun secret => ?_)
  exact congrArg pure (Key.uuid_congr same secret label)

theorem derive_congr_salt (same : saltBlock salt = saltBlock other) (form : KeyForm) :
    derive ⟨settings.withSalt salt, medium⟩ label form =
      derive ⟨settings.withSalt other, medium⟩ label form := by
  cases form with
  | bytes length => exact congrArg (_ <$> ·) (key_congr settings medium label same length)
  | hex length => exact congrArg (_ <$> ·) (hexKey_congr settings medium label same length)
  | uuid => exact congrArg (_ <$> ·) (uuid_congr settings medium label same)

end Keeper

namespace CommandLine

/-- A command does the same under another salt if its work with a keeper does. -/
theorem withKeeper_congr {α : Type} {body : Keeper → Attempt Error α} (salt other : Option Bytes)
    (h : ∀ medium, body ⟨settings.withSalt salt, medium⟩ = body ⟨settings.withSalt other, medium⟩) :
    withKeeper (settings.withSalt salt) body = withKeeper (settings.withSalt other) body := by
  have made : ∀ salt, withKeeper (settings.withSalt salt) body =
      Medium.ofSettings settings >>= fun medium =>
        liftM (Program.log .debug s!"Secret store using {medium.text}") >>= fun _ =>
          Program.ensuring (body ⟨settings.withSalt salt, medium⟩) medium.close := by
    intro salt
    simp only [withKeeper, Keeper.make, bind_assoc, pure_bind]
    rfl
  rw [made, made]
  simp only [h]

theorem printing_congr {body : Keeper → Attempt Error String}
    (h : ∀ medium, body ⟨settings.withSalt salt, medium⟩ = body ⟨settings.withSalt other, medium⟩) :
    printing (settings.withSalt salt) body = printing (settings.withSalt other) body := by
  rw [printing, printing, withKeeper_congr settings salt other h]

/-- Only the two commands that print a key look at the salt. -/
theorem execute_congr (same : saltBlock salt = saltBlock other) (command : Command) :
    execute (settings.withSalt salt) command = execute (settings.withSalt other) command := by
  cases command with
  | version => rfl
  | status json =>
    simp only [execute, executeStatus]
    rw [withKeeper_congr settings salt other fun medium => rfl]
  | init =>
    simp only [execute, executeInit]
    rw [withKeeper_congr settings salt other fun medium => rfl]
  | check =>
    simp only [execute, executeCheck]
    rw [withKeeper_congr settings salt other fun medium => rfl]
  | hex size info =>
    exact printing_congr settings fun medium =>
      Keeper.hexKey_congr settings medium (.text info) same size
  | uuid info =>
    exact printing_congr settings fun medium =>
      congrArg (Uuid.text <$> ·) (Keeper.uuid_congr settings medium (.text info) same)

end CommandLine

/-- Salts with one block are interchangeable. -/
theorem Interchangeable.of_saltBlock (same : saltBlock salt = saltBlock other) :
    Interchangeable salt other where
  keys := Key.ofLength_congr same
  hexKeys := Key.hexOfLength_congr same
  uuids := Key.uuid_congr same
  keepers settings medium label := Keeper.derive_congr_salt settings medium label same
  commands settings := CommandLine.execute_congr settings same

end

/-! ## Command lines -/

/-- Settings are what the environment describes, behind a warning if it brings an override. -/
theorem Settings.load_bind {α : Type} (env : Environment) (customerRegion : Option Bool)
    (salt : Option String) (next : Settings → Program α) :
    (load env customerRegion salt >>= next) =
      (if env.override.isSome then Program.log .warning
        s!"{Environment.overrideName} is set, using a fake device secret instead of OTP memory"
        else pure ()) >>= fun _ => next (ofEnvironment env customerRegion salt) := by
  unfold load
  split <;> rfl

namespace CommandLine

open Hkdf (saltBlock)

variable {env env' : Environment} {invocation invocation' : Invocation} {args args' : List String}

/-- Two command lines that ask for the same command do the same if their settings differ in nothing
but salts with one block. -/
theorem run_congr (read : Invocation.parse? args = some invocation)
    (read' : Invocation.parse? args' = some invocation')
    (command : invocation'.command = invocation.command)
    (arguments : invocation'.arguments = invocation.arguments)
    (override : env'.override = env.override) {salt : Option Bytes}
    (settings : invocation'.settings env' = (invocation.settings env).withSalt salt)
    (same : saltBlock salt = saltBlock (invocation.settings env).salt) :
    run args' env' = run args env := by
  have executed : ∀ command, execute (invocation'.settings env') command =
      execute (invocation.settings env) command := by
    intro command
    rw [settings]
    exact execute_congr (invocation.settings env) same command
  -- Whether there is a warning about the override does not depend on the salt.
  simp only [run, read, read', Settings.load_bind, override, command, arguments]
  refine congrArg (_ >>= ·) (funext fun _ => ?_)
  cases Command.parse? invocation.command invocation.arguments with
  | none => rfl
  | some command => exact executed command

/-- A process shows what its command line does, and how much of the log is asked for. -/
theorem invoke_congr (same : run args' env' = run args env)
    (verbose : isVerbose args' = isVerbose args) (time : String) (m : Machine) :
    invoke time args' env' m = invoke time args env m := by
  simp only [invoke, same, verbose]

/-- A text that was given counts; behind it, the empty text comes to what no text does. -/
theorem saltBlock_or_empty (given : Option String) :
    saltBlock ((given.or (some "")).map Bytes.ofText) =
      saltBlock ((given.or none).map Bytes.ofText) := by
  cases given with
  | some text => rfl
  | none => exact Hkdf.saltBlock_none.symm

/-- The other uses ask for the same, without a salt. -/
theorem Use.options_filter (uses : List Use) :
    options (uses.filter (·.salt?.isNone)) = { options uses with salt := none } := by
  have stays : ∀ use : Use, use.salt? = none →
      (uses.filter (·.salt?.isNone)).contains use = uses.contains use := by
    intro use plain
    simp [plain]
  have gone : (uses.filter (·.salt?.isNone)).filterMap salt? = [] := by
    simp [List.filterMap_eq_nil_iff]
  rw [options, options, stays customer rfl, stays verbose rfl, stays verboseLetter rfl, gone]
  rfl

/-- A salt in the environment that is empty is none. -/
theorem invoke_empty_variable (time : String) (args : List String) (env : Environment)
    (m : Machine) : invoke time args { env with salt := some "" } m =
      invoke time args { env with salt := none } m := by
  refine invoke_congr ?_ rfl time m
  cases read : Invocation.parse? args with
  | none => simp only [run, read]
  | some invocation =>
    exact run_congr read read rfl rfl rfl rfl (saltBlock_or_empty invocation.options.salt)

/-- A salt on the command line that is empty is none, whatever the environment says: the command
line without its options for a salt does the same where the environment has none. -/
theorem invoke_empty_option (time : String) {uses : List Use}
    (empty : (Use.options uses).salt = some "") (name : CommandName) (arguments : List String)
    (env : Environment) (m : Machine) :
    invoke time (uses.flatMap Use.args ++ name.text :: arguments) env m =
      invoke time ((uses.filter (·.salt?.isNone)).flatMap Use.args ++ name.text :: arguments)
        { env with salt := none } m := by
  have read := parse?_args (uses.filter (·.salt?.isNone)) name arguments
  have read' := parse?_args uses name arguments
  rw [Use.options_filter] at read
  refine invoke_congr ?_ ?_ time m
  · refine run_congr read read' rfl rfl rfl rfl ?_
    rw [empty]
    exact saltBlock_or_empty none
  · simp only [isVerbose, read, read', Option.map_some]

end CommandLine

/-! ## The convention -/

/-- Which salts give the same keys. -/
structure SaltConvention : Prop where
  /-- No salt, the empty salt and up to 72 zeros are one salt. -/
  empty : Interchangeable none (some [])
  zeros : ∀ count : Nat, count ≤ 72 → Interchangeable none (some (List.replicate count 0))
  /-- Zeros at the end change nothing, up to 72 bytes in all. -/
  padded : ∀ (salt : Bytes) (count : Nat), salt.length + count ≤ 72 →
    Interchangeable (some salt) (some (salt ++ List.replicate count 0))
  /-- A longer salt is its digest. -/
  digested : ∀ salt : Bytes, 72 < salt.length →
    Interchangeable (some salt) (some (Sha3.sha3_512 salt))
  /-- So a process with an empty salt is one without: it prints the same, ends the same, and leaves
  the same machine. -/
  emptyVariable : ∀ (time : String) (args : List String) (env : Environment) (m : Machine),
    CommandLine.invoke time args { env with salt := some "" } m =
      CommandLine.invoke time args { env with salt := none } m
  emptyOption : ∀ (time : String) (uses : List CommandLine.Use),
    (CommandLine.Use.options uses).salt = some "" →
    ∀ (name : CommandLine.CommandName) (arguments : List String) (env : Environment) (m : Machine),
      CommandLine.invoke time (uses.flatMap CommandLine.Use.args ++ name.text :: arguments) env m =
        CommandLine.invoke time ((uses.filter (·.salt?.isNone)).flatMap CommandLine.Use.args ++
          name.text :: arguments) { env with salt := none } m

theorem salt_convention : SaltConvention where
  empty := .of_saltBlock Hkdf.saltBlock_none
  zeros _ fits := .of_saltBlock (Hkdf.saltBlock_none.trans (Hkdf.saltBlock_zeros fits).symm)
  padded _ _ fits := .of_saltBlock (Hmac.blockKey_append_zeros fits).symm
  digested _ long := .of_saltBlock (Hmac.blockKey_digest long).symm
  emptyVariable := CommandLine.invoke_empty_variable
  emptyOption time _ empty := CommandLine.invoke_empty_option time empty

end DeviceKeys
