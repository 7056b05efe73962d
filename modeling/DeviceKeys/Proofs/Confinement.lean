import DeviceKeys.Proofs.Diagnostics
import DeviceKeys.Proofs.KeyStream
import DeviceKeys.Session

/-!
# Which errors come out

Below a medium stands the operating system, whose errors say which call failed and not what that
means. None of them comes out of a medium or of a keeper: each is turned, where it arises, into an
error of the library, and so is one that a clean-up meets while another error is already on its way.
What can come out differs from function to function. `Operation.failuresOnMedium` and
`Operation.failuresOnKeeper` say what, and are what a caller has to be prepared for.

`Program.ConfinedTo` is that statement about one attempt, on every machine. It has a rule for each
construction of the `do` notation, and each function is taken apart by these rules down to the
functions that it calls.

One case is left over (`Keeper.Overlong`): a keeper that has its secret, and is asked for a key
whose length has more digits than are written in decimal. The refusal of such a length cannot be put
into words, and the error of the attempt comes out, which is none of the library's.
-/

set_option autoImplicit false

namespace DeviceKeys

/-! ## Attempts that fail in certain ways only -/

namespace Program

variable {α β : Type} {kinds kinds' : List ErrorKind}

/-- If this ends in an error, on whichever machine, then in one of these kinds. -/
def ConfinedTo (kinds : List ErrorKind) (program : Program (Except Error α)) : Prop :=
  ∀ m err, (program.run m).1 = .error err → err.kind ∈ kinds

theorem confinedTo_return (value : α) : (pure value : Attempt Error α).run.ConfinedTo kinds := nofun

theorem confinedTo_lift (program : Program α) :
    (liftM program : Attempt Error α).run.ConfinedTo kinds := by
  intro m err failed
  rw [run_lift] at failed
  cases failed

theorem confinedTo_throw {err : Error} (h : err.kind ∈ kinds) :
    (throw err : Attempt Error α).run.ConfinedTo kinds := by
  rintro m _ ⟨⟩
  exact h

theorem ConfinedTo.mono {program : Program (Except Error α)} (h : program.ConfinedTo kinds)
    (more : kinds ⊆ kinds') : program.ConfinedTo kinds' := fun m err failed => more (h m err failed)

theorem ConfinedTo.bind {x : Attempt Error α} {next : α → Attempt Error β}
    (first : x.run.ConfinedTo kinds) (second : ∀ value, (next value).run.ConfinedTo kinds) :
    (x >>= next).run.ConfinedTo kinds := by
  intro m err failed
  rcases run_bind_eq_error failed with failed | ⟨value, -, failed⟩
  · exact first m err failed
  · exact second value _ err failed

theorem ConfinedTo.map {x : Attempt Error α} (f : α → β) (h : x.run.ConfinedTo kinds) :
    (f <$> x).run.ConfinedTo kinds := by
  rw [← bind_pure_comp]
  exact h.bind fun value => confinedTo_return (f value)

/-- The error of a clean-up can take the place of the error of the body. -/
theorem ConfinedTo.ensuring {x : Attempt Error α} {cleanup : Attempt Error Unit}
    (h : x.run.ConfinedTo kinds) (h' : cleanup.run.ConfinedTo kinds) :
    (ensuring x cleanup).run.ConfinedTo kinds := by
  intro m err failed
  rw [run_ensuring] at failed
  cases cleaned : (cleanup.run.run (x.run.run m).2).1 with
  | ok _ =>
    rw [cleaned] at failed
    exact h m err failed
  | error other =>
    rw [cleaned] at failed
    cases failed
    exact h' _ err cleaned

end Program

/-! ## Media -/

namespace Operation

/-- The kinds of errors that an operation on a medium can end in. -/
def failuresOnMedium : Operation → List ErrorKind
  | .text | .close | .region => []
  | .inspect | .fetch => [.readingFailed]
  | .program value =>
    if value.length = 32 then [.mediumMissing, .alreadyProgrammed, .programmingFailed]
    else [.invalidValue]
  | _ => [.invalidState]

end Operation

namespace Medium

open Program (confinedTo_lift confinedTo_return confinedTo_throw)

theorem confinedTo_claim (region : Region) (path : String) :
    (claim region path).run.ConfinedTo [.regionClaimed] := by
  refine (confinedTo_lift _).bind ?_
  intro granted
  cases granted with
  | some id => exact confinedTo_return _
  | none => exact confinedTo_throw (by simp [Error.kind])

theorem confinedTo_ofSettings (settings : Settings) :
    (ofSettings settings).run.ConfinedTo [.regionClaimed] := by
  unfold ofSettings
  split
  · exact confinedTo_return _
  · exact confinedTo_claim _ _

theorem confinedTo_inspect (medium : Medium) :
    medium.inspect.run.ConfinedTo [.readingFailed] := by
  intro m err failed
  obtain ⟨cause, rfl⟩ := inspect_eq_error failed
  exact List.mem_singleton_self _

theorem confinedTo_fetch (medium : Medium) : medium.fetch.run.ConfinedTo [.readingFailed] := by
  cases medium with
  | override seed => exact confinedTo_return _
  | otp region path claim =>
    refine Program.ConfinedTo.bind ?_ fun _ => confinedTo_return _
    intro m err failed
    rw [Program.run_adapt] at failed
    cases seen : ((Handle.visit region path).run.run m).1 with
    | ok value =>
      rw [seen] at failed
      cases failed
    | error cause =>
      rw [seen] at failed
      cases failed
      exact List.mem_singleton_self _

theorem ProgramFailure.kind {err : Error} (h : ProgramFailure err) :
    err.kind ∈ [.mediumMissing, .alreadyProgrammed, .programmingFailed] := by
  cases h <;> simp [Error.kind]

theorem confinedTo_programRegion (region : Region) (path : String) (value : Block) :
    (programRegion region path value).run.ConfinedTo
      [.mediumMissing, .alreadyProgrammed, .programmingFailed] :=
  fun m _ failed => ((programmed region path value m).failure failed).kind

/-- A secret of another size is refused before the device is asked anything. -/
theorem program_of_length_ne (region : Region) (path : String) (claim : ClaimId) {bytes : Bytes}
    (h : bytes.length ≠ 32) :
    (otp region path claim).program bytes = throw (.secretSize bytes.length) := by
  simp only [program, (Block.ofBytes?_eq_none_iff bytes).2 h]

theorem program_of_length_eq (region : Region) (path : String) (claim : ClaimId) {bytes : Bytes}
    (h : bytes.length = 32) :
    ∃ value, (otp region path claim).program bytes = programRegion region path value := by
  cases size : Block.ofBytes? bytes with
  | none => exact absurd h ((Block.ofBytes?_eq_none_iff bytes).1 size)
  | some value => exact ⟨value, by simp only [program, size]⟩

theorem confinedTo_program (medium : Medium) (bytes : Bytes) :
    (medium.program bytes).run.ConfinedTo (Operation.program bytes).failuresOnMedium := by
  cases medium with
  | override seed => exact confinedTo_lift _
  | otp region path claim =>
    by_cases size : bytes.length = 32
    · obtain ⟨value, same⟩ := program_of_length_eq region path claim size
      rw [same, Operation.failuresOnMedium, if_pos size]
      exact confinedTo_programRegion region path value
    · rw [program_of_length_ne region path claim size, Operation.failuresOnMedium, if_neg size]
      exact confinedTo_throw (List.mem_singleton_self _)

/-- An error that says that the region cannot be programmed, or is programmed already, says also
that nothing was written. -/
theorem program_unwritten (region : Region) (path : String) (claim : ClaimId) (bytes : Bytes)
    (m : Machine) {err : Error}
    (failed : (((otp region path claim).program bytes).run.run m).1 = .error err)
    (kind : err.kind = .mediumMissing ∨ err.kind = .alreadyProgrammed) :
    (((otp region path claim).program bytes).run.calls m).filterMap Moment.written? = [] := by
  by_cases size : bytes.length = 32
  · obtain ⟨value, same⟩ := program_of_length_eq region path claim size
    rw [same] at failed ⊢
    obtain unwritten | ⟨-, outcome | ⟨cause, outcome⟩⟩ := (programmed region path value m).written
    · exact unwritten
    · rw [outcome] at failed
      cases failed
    · rw [outcome] at failed
      cases failed
      rcases kind with kind | kind <;> cases kind
  · rw [program_of_length_ne region path claim size]
    rfl

theorem confinedTo_onMedium (name : String) (medium : Medium) (operation : Operation) :
    (Item.onMedium name medium operation).run.ConfinedTo operation.failuresOnMedium := by
  cases operation with
  | text | region => exact confinedTo_return _
  | close => exact (confinedTo_lift _).bind fun _ => confinedTo_return _
  | inspect => exact (confinedTo_inspect medium).map _
  | program value => exact (confinedTo_program medium value).bind fun _ => confinedTo_return _
  | fetch => exact (confinedTo_fetch medium).map _
  | _ => exact confinedTo_throw (List.mem_singleton_self _)

end Medium

/-! ## Keepers -/

namespace Operation

/-- The kinds of errors that an operation on a keeper can end in. A key needs the secret, and its
length can be refused besides; a UUID has no length. -/
def failuresOnKeeper : Operation → List ErrorKind
  | .text | .close | .placeName => []
  | .provide => [.regionUnavailable, .programmingFailed]
  | .state | .isProvided => [.readingFailed]
  | .secret | .uuid _ => [.regionBlank, .regionUnavailable, .readingFailed]
  | .key _ _ | .hexKey _ _ => [.regionBlank, .regionUnavailable, .readingFailed, .keyLength]
  | .report => [.readingFailed, .regionClaimed]
  | _ => [.invalidState]

/-- The length of the key that is asked for, be it as bytes or as a text. -/
def keyLength? : Operation → Option Int
  | .key _ length | .hexKey _ length => some length
  | _ => none

end Operation

/-- What is made of a result leaves an error as it is. -/
theorem map_eq_error_iff {ε α β : Type} (f : α → β) {result : Except ε α} {err : ε} :
    result.map f = .error err ↔ result = .error err := by
  cases result with
  | ok value => exact ⟨nofun, nofun⟩
  | error cause =>
    constructor <;> exact fun same => congrArg Except.error (Except.error.inj same)

/-- The two shapes of a key are refused alike. -/
theorem Key.hexOfLength_eq_error_iff {secret : RootSecret} {label : Label} {length : Int}
    {salt : Option Bytes} {err : Error} : Key.hexOfLength secret label length salt = .error err ↔
      Key.ofLength secret label length salt = .error err := map_eq_error_iff Bytes.hex

namespace Keeper

open Program (confinedTo_lift confinedTo_return confinedTo_throw)

theorem confinedTo_make (settings : Settings) (medium : Option Medium) :
    (make settings medium).run.ConfinedTo [.regionClaimed] := by
  unfold make
  cases medium with
  | some medium =>
    exact (confinedTo_return _).bind fun _ => (confinedTo_lift _).bind fun _ => confinedTo_return _
  | none =>
    exact (Medium.confinedTo_ofSettings settings).bind fun _ =>
      (confinedTo_lift _).bind fun _ => confinedTo_return _

variable (keeper : Keeper)

theorem confinedTo_provide :
    keeper.provide.run.ConfinedTo [.regionUnavailable, .programmingFailed] := by
  intro m err failed
  obtain kind | kind := provide_eq_error failed <;> rw [kind] <;> decide

theorem confinedTo_secret :
    keeper.secret.run.ConfinedTo [.regionBlank, .regionUnavailable, .readingFailed] := by
  refine ((Medium.confinedTo_inspect _).mono (by decide)).bind ?_
  intro state
  cases state with
  | blank => exact confinedTo_throw (by simp [Error.kind])
  | unavailable => exact confinedTo_throw (by simp [Error.kind])
  | programmed =>
    refine ((Medium.confinedTo_fetch _).mono (by decide)).bind ?_
    intro secret
    split
    · exact confinedTo_throw (by simp [Error.kind])
    · exact confinedTo_return _

/-- A key is made of the secret, if there is one. -/
theorem run_key (label : Label) (length : Int) (m : Machine) :
    ((keeper.key label length).run.run m).1 = (keeper.secret.run.run m).1 >>= fun secret =>
      Key.ofLength secret label length keeper.settings.salt := by
  rw [key, Program.run_attempt_bind]
  cases (keeper.secret.run.run m).1 with
  | error err => rfl
  | ok secret =>
    show ((Program.ofExcept _ >>= _).run.run _).1 = Key.ofLength secret label length _
    cases Key.ofLength secret label length keeper.settings.salt <;> rfl

theorem run_hexKey (label : Label) (length : Int) (m : Machine) :
    ((keeper.hexKey label length).run.run m).1 = (keeper.secret.run.run m).1 >>= fun secret =>
      Key.hexOfLength secret label length keeper.settings.salt := by
  rw [hexKey, Program.run_attempt_bind]
  cases (keeper.secret.run.run m).1 <;> rfl

theorem run_uuid (label : Label) (m : Machine) : ((keeper.uuid label).run.run m).1 =
    (keeper.secret.run.run m).1.map fun secret =>
      Key.uuid secret label keeper.settings.salt := by
  rw [uuid, Program.run_attempt_bind]
  cases (keeper.secret.run.run m).1 <;> rfl

/-- What is refused of a keeper with a secret is the length, and nothing else. -/
theorem onKeeper_eq_error_iff {name : String} {operation : Operation} {length : Int} {m : Machine}
    {err : Error} (asked : operation.keyLength? = some length) :
    ((Item.onKeeper name keeper operation).run.run m).1 = .error err ↔
      (keeper.secret.run.run m).1 = .error err ∨
        (∃ secret, (keeper.secret.run.run m).1 = .ok secret) ∧
          (length < 0 ∨ Key.longest < length) ∧ err = Key.refusal length := by
  cases operation <;> cases asked
  case key label =>
    rw [Item.onKeeper, Program.run_attempt_map, map_eq_error_iff, run_key]
    cases (keeper.secret.run.run m).1 with
    | error cause => simp [bind, Except.bind]
    | ok secret => simp [bind, Except.bind, Key.ofLength_eq_error_iff]
  case hexKey label =>
    rw [Item.onKeeper, Program.run_attempt_map, map_eq_error_iff, run_hexKey]
    cases (keeper.secret.run.run m).1 with
    | error cause => simp [bind, Except.bind]
    | ok secret =>
      simp [bind, Except.bind, Key.hexOfLength_eq_error_iff, Key.ofLength_eq_error_iff]

/-- A look through a medium that is made for it can also meet a region that is claimed. -/
theorem confinedTo_stateOf (region : Region) :
    (keeper.stateOf region).run.ConfinedTo [.readingFailed, .regionClaimed] := by
  unfold stateOf
  split
  · exact (Medium.confinedTo_inspect _).mono (by decide)
  · refine ((Medium.confinedTo_claim _ _).mono (by decide)).bind ?_
    intro medium
    exact ((Medium.confinedTo_inspect _).mono (by decide)).ensuring (confinedTo_lift _)

theorem confinedTo_report : keeper.report.run.ConfinedTo [.readingFailed, .regionClaimed] :=
  (keeper.confinedTo_stateOf .privateKey).bind fun _ =>
    (keeper.confinedTo_stateOf .customer).bind fun _ =>
      (confinedTo_lift _).bind fun _ => confinedTo_return _

/-- Operations that ask for no length are confined whatever they are asked on. -/
theorem confinedTo_onKeeper (name : String) {operation : Operation}
    (plain : operation.keyLength? = none) :
    (Item.onKeeper name keeper operation).run.ConfinedTo operation.failuresOnKeeper := by
  cases operation with
  | text | placeName => exact confinedTo_return _
  | close => exact (confinedTo_lift _).bind fun _ => confinedTo_return _
  | provide => exact keeper.confinedTo_provide.map _
  | state => exact (Medium.confinedTo_inspect _).map _
  | isProvided =>
    exact ((Medium.confinedTo_inspect _).bind fun _ => confinedTo_return _).map _
  | secret => exact keeper.confinedTo_secret.map _
  | key | hexKey => cases plain
  | uuid label => exact (keeper.confinedTo_secret.bind fun _ => confinedTo_return _).map _
  | report => exact keeper.confinedTo_report.map _
  | _ => exact confinedTo_throw (List.mem_singleton_self _)

/-- A keeper that has its secret is asked for a key whose length has more digits than are
written. -/
def Overlong (operation : Operation) (m : Machine) : Prop :=
  ∃ length secret, operation.keyLength? = some length ∧ Text.isWritable length = false ∧
    (keeper.secret.run.run m).1 = .ok secret

theorem onKeeper_of_overlong (name : String) {operation : Operation} {m : Machine}
    (overlong : keeper.Overlong operation m) :
    ((Item.onKeeper name keeper operation).run.run m).1 = .error .tooManyDigits := by
  obtain ⟨length, secret, asked, long, given⟩ := overlong
  rw [keeper.onKeeper_eq_error_iff asked, Key.refusal_of_not_isWritable long]
  exact .inr ⟨⟨secret, given⟩, Key.outside_of_not_isWritable long, rfl⟩

/-- With a length that can be written out, a key fails for want of a secret or over its length. -/
theorem kind_mem_of_keyLength? {name : String} {operation : Operation} {length : Int} {m : Machine}
    {err : Error} (asked : operation.keyLength? = some length)
    (other : ¬keeper.Overlong operation m)
    (failed : ((Item.onKeeper name keeper operation).run.run m).1 = .error err) :
    err.kind ∈ operation.failuresOnKeeper := by
  have kinds : operation.failuresOnKeeper =
      [.regionBlank, .regionUnavailable, .readingFailed, .keyLength] := by
    cases operation <;> cases asked <;> rfl
  rw [kinds]
  obtain failed | ⟨⟨secret, given⟩, -, rfl⟩ := (keeper.onKeeper_eq_error_iff asked).1 failed
  · exact keeper.confinedTo_secret.mono (by decide) m err failed
  · cases short : Text.isWritable length with
    | true => simp [Key.kind_refusal_iff.2 short]
    | false => exact absurd ⟨length, secret, asked, short, given⟩ other

/-- An operation on a keeper is confined to its failures unless it asks too long a key of a secret
that is there. -/
theorem onKeeper_confined_iff (name : String) (operation : Operation) (m : Machine) :
    (∀ err, ((Item.onKeeper name keeper operation).run.run m).1 = .error err →
      err.kind ∈ operation.failuresOnKeeper) ↔ ¬keeper.Overlong operation m := by
  constructor
  · intro confined overlong
    have mem := confined _ (keeper.onKeeper_of_overlong name overlong)
    obtain ⟨length, -, asked, -⟩ := overlong
    cases operation <;> cases asked <;> cases mem <;> contradiction
  · intro other err failed
    cases asked : operation.keyLength? with
    | none => exact keeper.confinedTo_onKeeper name asked m err failed
    | some length => exact keeper.kind_mem_of_keyLength? asked other failed

end Keeper

/-! ## All together -/

theorem ErrorKind.operatingSystem_mem_families_iff {kind : ErrorKind} :
    .operatingSystem ∈ kind.families ↔ kind = .operatingSystem ∨ kind = .rejectedRequest := by
  cases kind <;> decide

/-- No operation on a medium or a keeper can end in an error of the operating system. -/
theorem Operation.operatingSystem_notMem_families (operation : Operation) :
    ∀ kind ∈ operation.failuresOnMedium ++ operation.failuresOnKeeper,
      .operatingSystem ∉ kind.families := by
  intro kind mem
  rw [ErrorKind.operatingSystem_mem_families_iff]
  rintro (rfl | rfl) <;> cases operation <;>
    grind [failuresOnMedium, failuresOnKeeper]

/-- What comes out of media, and of a keeper, where something fails. -/
structure Confined (keeper : Keeper) : Prop where
  /-- Making one fails only where the region is claimed. -/
  claim : ∀ region path, (Medium.claim region path).run.ConfinedTo [.regionClaimed]
  ofSettings : ∀ settings, (Medium.ofSettings settings).run.ConfinedTo [.regionClaimed]
  make : ∀ settings medium, (Keeper.make settings medium).run.ConfinedTo [.regionClaimed]
  /-- Using one fails in the ways that its operation has. -/
  onMedium : ∀ name medium operation,
    (Item.onMedium name medium operation).run.ConfinedTo operation.failuresOnMedium
  /-- On a keeper this is so unless the secret is there and the length cannot be written out, -/
  onKeeper : ∀ name operation m,
    (∀ err, ((Item.onKeeper name keeper operation).run.run m).1 = .error err →
      err.kind ∈ operation.failuresOnKeeper) ↔ ¬keeper.Overlong operation m
  /-- and then the error belongs to the library in no way. -/
  overlong : ∀ name operation m, keeper.Overlong operation m →
    ((Item.onKeeper name keeper operation).run.run m).1 = .error .tooManyDigits
  foreign : Error.tooManyDigits.kind.families = [.invalidValue]
  /-- None of the ways is an error of the operating system, by whatever family. -/
  apart : ∀ operation : Operation,
    ∀ kind ∈ operation.failuresOnMedium ++ operation.failuresOnKeeper,
      .operatingSystem ∉ kind.families
  /-- A secret of another size is refused, and the machine is left as it was. -/
  refused : ∀ region path claim bytes m, bytes.length ≠ 32 →
    ((Medium.otp region path claim).program bytes).run.run m =
      (.error (.secretSize bytes.length), m)
  /-- A region that is not offered or that is programmed already was not written. -/
  unwritten : ∀ region path claim bytes m err,
    (((Medium.otp region path claim).program bytes).run.run m).1 = .error err →
    err.kind = .mediumMissing ∨ err.kind = .alreadyProgrammed →
    (((Medium.otp region path claim).program bytes).run.calls m).filterMap Moment.written? = []

theorem errors_confined (keeper : Keeper) : Confined keeper where
  claim := Medium.confinedTo_claim
  ofSettings := Medium.confinedTo_ofSettings
  make := Keeper.confinedTo_make
  onMedium := Medium.confinedTo_onMedium
  onKeeper := keeper.onKeeper_confined_iff
  overlong name operation _ := keeper.onKeeper_of_overlong name
  foreign := rfl
  apart := Operation.operatingSystem_notMem_families
  refused region path claim bytes m size := by
    rw [Medium.program_of_length_ne region path claim size]
    rfl
  unwritten region path claim bytes m _ := Medium.program_unwritten region path claim bytes m

/-- A keeper of an override is asked for a key with a digit too many in its length, and fails in a
way that no operation on keepers has. -/
theorem Keeper.key_overlong :
    let keeper : Keeper := ⟨.standard, .override [1]⟩
    let operation : Operation := .key (.text "disk") Key.overlong
    let m : Machine := .start .blank []
    ((Item.onKeeper "store" keeper operation).run.run m).1 = .error .tooManyDigits ∧
      Error.tooManyDigits.kind ∉ operation.failuresOnKeeper := by
  intro keeper operation m
  have given : (keeper.secret.run.run m).1 = .ok (.ofSeed [1]) := by decide +kernel
  exact ⟨keeper.onKeeper_of_overlong "store" ⟨_, _, rfl, Key.not_isWritable_overlong, given⟩,
    by decide⟩

end DeviceKeys
