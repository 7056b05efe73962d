import Mathlib.Data.List.Forall2
import DeviceKeys.Proofs.Discretion
import DeviceKeys.Proofs.KeyStability

/-!
# Secrecy

Two worlds are alike if they differ in their secrets at most: in what a region holds where it is
not blank, and in the text of an override. Everything that is seen of moves that are the same on
both is the same too (`World.secrecy`): the calls, the log down to its last line, the errors, the
exit status and both outputs. There are two exceptions, and they are written into what alike means
for an answer: a key that was asked for, of which the length stays the same, and settings that are
read from the environment and hand out the override with it.

Moves that hand out a secret itself, or a request of the caller's own making, are left out. The
proof goes step by step along a session, since the sessions have to stay alike as well: a keeper
made of an override keeps its text for all the steps to come.
-/

set_option autoImplicit false

namespace DeviceKeys

open Program (Discreet)

variable {known : Region → Prop}

/-! ## Steps and their answers -/

/-- Whether an operation hands out a secret, or a request of the caller's own making. -/
def Operation.Reveals : Operation → Prop
  | .fetch | .secret | .exchange _ _ => True
  | _ => False

def Step.Reveals : Step → Prop
  | .operate _ operation => operation.Reveals
  | _ => False

/-- Answers to a step, in one environment each: the same ones, or two keys of one length, or the
settings that each environment describes. -/
inductive Answer.Alike (env env' : Environment) : Step → Answer → Answer → Prop
  | same (step : Step) (answer : Answer) : Alike env env' step answer answer
  | bytes {name : String} {operation : Operation} {key key' : Bytes}
      (asks : operation.key?.isSome) (length : key'.length = key.length) :
      Alike env env' (.operate name operation) (.bytes key) (.bytes key')
  | text {name : String} {operation : Operation} {key key' : String}
      (asks : operation.key?.isSome) (length : key'.length = key.length) :
      Alike env env' (.operate name operation) (.text key) (.text key')
  | loaded (name : String) (customerRegion : Option Bool) (salt : Option String) :
      Alike env env' (.loadSettings name customerRegion salt)
        (.settings (.ofEnvironment env customerRegion salt))
        (.settings (.ofEnvironment env' customerRegion salt))

theorem Answer.Alike.of_eq {env env' : Environment} {answer answer' : Answer} (step : Step)
    (h : answer = answer') : Alike env env' step answer answer' := by
  rw [h]
  exact .same step answer'

/-! ## Items -/

namespace Item

inductive Alike : Item → Item → Prop
  | settings {settings settings' : Settings} (h : settings.Alike settings') :
      Alike (.settings settings) (.settings settings')
  | medium {medium medium' : Medium} (h : medium.Alike medium') :
      Alike (.medium medium) (.medium medium')
  | keeper {keeper keeper' : Keeper} (h : keeper.Alike keeper') :
      Alike (.keeper keeper) (.keeper keeper')
  | handle (handle : Handle) : Alike (.handle handle) (.handle handle)

theorem Alike.claim? {item item' : Item} (h : Alike item item') : item'.claim? = item.claim? := by
  cases h with
  | settings h => rfl
  | medium h => exact h.claim?
  | keeper h => exact h.medium.claim?
  | handle handle => rfl

variable {operation : Operation}

theorem discreet_onMedium (name : String) {medium medium' : Medium} (h : medium.Alike medium')
    (modest : ¬operation.Reveals) : Discreet known (Results Eq)
      (onMedium name medium operation).run (onMedium name medium' operation).run := by
  cases operation with
  | text => exact Program.discreet_return (congrArg Answer.text h.text.symm)
  | close => exact h.close.run_lift.run_bind fun _ _ _ => Program.discreet_return rfl
  | inspect => exact h.inspect.run_map fun _ _ => congrArg Answer.state
  | program value => exact (h.program value).run_bind fun _ _ _ => Program.discreet_return rfl
  | fetch => exact absurd trivial modest
  | region => exact Program.discreet_return (congrArg Answer.region h.region?.symm)
  | _ => exact Program.discreet_throw _

/-- On a keeper a key may differ in its bytes, though not in its length. -/
theorem discreet_onKeeper (env env' : Environment) (name : String) {keeper keeper' : Keeper}
    (h : keeper.Alike keeper') (modest : ¬operation.Reveals) :
    Discreet known (Results (Answer.Alike env env' (.operate name operation)))
      (onKeeper name keeper operation).run (onKeeper name keeper' operation).run := by
  cases operation with
  | text => exact Program.discreet_return (.of_eq _ (congrArg Answer.text h.text.symm))
  | close => exact h.medium.close.run_lift.run_bind fun _ _ _ => Program.discreet_return (.same _ _)
  | placeName => exact Program.discreet_return (.of_eq _ (congrArg Answer.text h.placeName.symm))
  | provide => exact h.provide.run_map fun _ _ same => .of_eq _ (congrArg Answer.outcome same)
  | state => exact h.state.run_map fun _ _ same => .of_eq _ (congrArg Answer.state same)
  | isProvided => exact h.isProvided.run_map fun _ _ same => .of_eq _ (congrArg Answer.flag same)
  | secret => exact absurd trivial modest
  | key label length => exact (h.key label length).run_map fun _ _ => .bytes rfl
  | hexKey label length => exact (h.hexKey label length).run_map fun _ _ => .text rfl
  | uuid label =>
    refine (h.uuid label).run_map fun uuid uuid' _ => .text rfl ?_
    rw [Uuid.length_text, Uuid.length_text]
  | report => exact h.report.run_map fun _ _ same => .of_eq _ (congrArg Answer.report same)
  | _ => exact Program.discreet_throw _

/-- Raw requests can read anything, and count as revealing; what is left of a handle shows no
rows. -/
theorem discreet_onHandle (closedCalls : ClosedCalls) (name : String) (handle : Handle)
    (modest : ¬operation.Reveals) :
    Discreet known (fun left right => Results Eq left.1 right.1 ∧ right.2 = left.2)
      (onHandle closedCalls name handle operation) (onHandle closedCalls name handle operation) := by
  by_cases closing : operation = .close
  · subst closing
    refine (Handle.discreet_close handle).bind ?_
    rintro left _ rfl
    exact Program.discreet_pure ⟨Results.refl _, rfl⟩
  · obtain same | same := onHandle_eq closedCalls name handle closing <;> rw [same]
    · exact Program.discreet_pure ⟨.error _, rfl⟩
    · refine Discreet.bind ?_ fun _ _ same => Program.discreet_pure ⟨same, rfl⟩
      cases operation with
      | exchange tag value => exact absurd trivial modest
      | lock =>
        refine (Handle.discreet_lock.run_adapt _).run_bind ?_
        exact fun _ _ _ => Program.discreet_return rfl
      | unlock =>
        refine (Handle.discreet_unlock.run_adapt _).run_bind ?_
        exact fun _ _ _ => Program.discreet_return rfl
      | _ => exact Program.discreet_throw _

end Item

/-! ## Sessions -/

namespace Session

/-- The same names for items that are alike, in environments that are, on systems of one kind. -/
structure Alike (s s' : Session) : Prop where
  environment : s.environment.Alike s'.environment
  items : List.Forall₂ (fun held held' => held'.1 = held.1 ∧ held.2.Alike held'.2) s.items s'.items
  closedCalls : s'.closedCalls = s.closedCalls

variable {s s' : Session}

theorem alike_start {env env' : Environment} {closedCalls closedCalls' : ClosedCalls}
    (h : env.Alike env') (same : closedCalls' = closedCalls) :
    (start env closedCalls).Alike (start env' closedCalls') := ⟨h, .nil, same⟩

namespace Alike

theorem item? (h : s.Alike s') (name : String) :
    Option.Rel Item.Alike (s.item? name) (s'.item? name) := by
  have items := h.items
  unfold Session.item?
  generalize s.items = left at items
  generalize s'.items = right at items
  induction items with
  | nil => exact .none
  | @cons held held' rest rest' alike _ ih =>
    obtain ⟨same, alike⟩ := alike
    rw [List.lookup_cons, List.lookup_cons, same]
    split
    · exact .some alike
    · exact ih

theorem settings? (h : s.Alike s') (name : String) :
    Results Settings.Alike (s.settings? name) (s'.settings? name) := by
  have items := h.item? name
  unfold Session.settings?
  generalize s.item? name = item at items
  generalize s'.item? name = item' at items
  rcases items with alike | _
  · cases alike with
    | settings alike => exact .ok alike
    | _ => exact .error _
  · exact .error _

theorem medium? (h : s.Alike s') (name : String) :
    Results Medium.Alike (s.medium? name) (s'.medium? name) := by
  have items := h.item? name
  unfold Session.medium?
  generalize s.item? name = item at items
  generalize s'.item? name = item' at items
  rcases items with alike | _
  · cases alike with
    | medium alike => exact .ok alike
    | _ => exact .error _
  · exact .error _

theorem keep {item item' : Item} (h : s.Alike s') (name : String) (alike : item.Alike item') :
    (s.keep name item).Alike (s'.keep name item') :=
  ⟨h.environment, .cons ⟨rfl, alike⟩ h.items, h.closedCalls⟩

theorem replace {item item' : Item} (h : s.Alike s') (name : String) (alike : item.Alike item') :
    (s.replace name item).Alike (s'.replace name item') := by
  refine ⟨h.environment, List.rel_map ?_ h.items, h.closedCalls⟩
  rintro ⟨_, held⟩ ⟨other, held'⟩ ⟨rfl, kept⟩
  refine ⟨rfl, ?_⟩
  show Item.Alike (if other = name then item else held) (if other = name then item' else held')
  split
  · exact alike
  · exact kept

theorem forget (h : s.Alike s') (name : String) : (s.forget name).Alike (s'.forget name) := by
  refine ⟨h.environment, List.rel_filter ?_ h.items, h.closedCalls⟩
  rintro ⟨_, held⟩ ⟨other, held'⟩ ⟨rfl, -⟩
  exact Iff.rfl

/-- Media that are alike have one claim, and so it is within reach in both sessions or in
neither. -/
theorem reaches (h : s.Alike s') (id : ClaimId) : s'.reaches id = s.reaches id := by
  have items := h.items
  unfold Session.reaches
  generalize s.items = left at items
  generalize s'.items = right at items
  induction items with
  | nil => rfl
  | cons alike _ ih =>
    rw [List.any_cons, List.any_cons, ih]
    simp only [alike.2.claim?]

theorem discreet_settingsOrEnvironment (h : s.Alike s') (name : Option String) :
    Discreet known (Results Settings.Alike) (s.settingsOrEnvironment name).run
      (s'.settingsOrEnvironment name).run := by
  cases name with
  | some name => exact Program.discreet_ofExcept (h.settings? name)
  | none =>
    refine ((Settings.discreet_load h.environment none none).mono ?_).run_lift
    rintro _ _ ⟨rfl, rfl⟩
    exact .ofEnvironment h.environment none none

end Alike

/-! ### Steps of a session -/

/-- What a step makes on both sides, and what it answers. -/
structure Made (env env' : Environment) (step : Step) (left right : Item × Answer) : Prop where
  item : left.1.Alike right.1
  answer : left.2.Alike env env' step right.2

/-- What a step comes to on both sides: the same error or answers that are alike, and sessions that
are alike as well. -/
structure Stepped (env env' : Environment) (step : Step)
    (left right : Except Error Answer × Session) : Prop where
  answer : Results (Answer.Alike env env' step) left.1 right.1
  session : left.2.Alike right.2

variable {env env' : Environment} {step : Step}

/-- What was made is kept in both sessions under the name, unless making it failed in both. -/
theorem Alike.discreet_make {body body' : Attempt Error (Item × Answer)} (h : s.Alike s')
    (name : String)
    (made : Discreet known (Results (Made env env' step)) body.run body'.run) :
    Discreet known (Stepped env env' step) (s.make name body) (s'.make name body') := by
  refine made.bind ?_
  rintro _ _ (⟨item, answer⟩ | err)
  · exact Program.discreet_pure ⟨.ok answer, h.keep name item⟩
  · exact Program.discreet_pure ⟨.error err, h⟩

/-- A keeper is made, and what it answers with says nothing of its settings. -/
theorem discreet_tell {settings settings' : Settings} {medium medium' : Option Medium}
    (h : settings.Alike settings') (given : Option.Rel Medium.Alike medium medium') :
    Discreet known (Results (Made env env' step))
      (do let keeper ← Keeper.make settings medium
          return (.keeper keeper, .text keeper.text) : Attempt Error (Item × Answer)).run
      (do let keeper ← Keeper.make settings' medium'
          return (.keeper keeper, .text keeper.text) : Attempt Error (Item × Answer)).run := by
  refine (Keeper.discreet_make h given).run_bind ?_
  intro _ _ alike
  exact Program.discreet_return ⟨.keeper alike, .of_eq _ (congrArg Answer.text alike.text.symm)⟩

/-- A claim is given back in both sessions or in neither. -/
theorem Alike.discreet_drop (h : s.Alike s') (name : String) :
    Discreet known Alike (s.drop name) (s'.drop name) := by
  have items := h.item? name
  have claims : (s'.item? name).bind Item.claim? = (s.item? name).bind Item.claim? := by
    generalize s.item? name = item at items
    generalize s'.item? name = item' at items
    rcases items with alike | _
    · exact alike.claim?
    · rfl
  unfold drop
  rw [claims]
  cases (s.item? name).bind Item.claim? with
  | none => exact Program.discreet_pure (h.forget name)
  | some id =>
    simp only [(h.forget name).reaches id]
    split
    · refine (Program.discreet_perform (.release id) fun _ => nofun).bind ?_
      rintro _ _ -
      exact Program.discreet_pure (h.forget name)
    · exact Program.discreet_pure (h.forget name)

theorem Alike.discreet_operate (h : s.Alike s') (name : String) {operation : Operation}
    (modest : ¬operation.Reveals) :
    Discreet known (Stepped env env' (.operate name operation)) (s.operate name operation)
      (s'.operate name operation) := by
  have items := h.item? name
  unfold operate
  generalize s.item? name = item at items
  generalize s'.item? name = item' at items
  rcases items with alike | _
  · cases alike with
    | settings alike => exact Program.discreet_pure ⟨.error _, h⟩
    | medium alike =>
      refine (Item.discreet_onMedium name alike modest).bind ?_
      intro _ _ answers
      exact Program.discreet_pure ⟨answers.mono fun _ _ => .of_eq _, h⟩
    | keeper alike =>
      refine Discreet.bind (Item.discreet_onKeeper env env' name alike modest) ?_
      intro _ _ answers
      exact Program.discreet_pure ⟨answers, h⟩
    | handle handle =>
      simp only [h.closedCalls]
      refine (Item.discreet_onHandle s.closedCalls name handle modest).bind ?_
      rintro ⟨answer, _⟩ ⟨answer', left⟩ ⟨answers, rfl⟩
      exact Program.discreet_pure ⟨answers.mono fun _ _ => .of_eq _, h.replace name (.handle left)⟩
  · exact Program.discreet_pure ⟨.error _, h⟩

/-- One case for each step; the sessions stay alike for the steps to come. -/
theorem Alike.discreet_perform (h : s.Alike s') (modest : ¬step.Reveals) :
    Discreet known (Stepped s.environment s'.environment step) (s.perform step)
      (s'.perform step) := by
  cases step with
  | alterDevice change => exact Program.discreet_pure ⟨.ok (.same _ _), h⟩
  | makeSettings name fields =>
    refine h.discreet_make name ((Program.discreet_ofExcept (Results.refl _)).run_bind ?_)
    rintro settings _ rfl
    exact Program.discreet_return ⟨.settings (.refl settings), .same _ _⟩
  | loadSettings name customerRegion salt =>
    refine h.discreet_make name
      ((Settings.discreet_load h.environment customerRegion salt).run_lift.run_bind ?_)
    rintro _ _ ⟨rfl, rfl⟩
    have alike := Settings.Alike.ofEnvironment h.environment customerRegion salt
    exact Program.discreet_return ⟨.settings alike, .loaded name customerRegion salt⟩
  | claimRegion name region path =>
    refine h.discreet_make name ((Medium.discreet_claim region path).run_bind ?_)
    rintro medium _ rfl
    exact Program.discreet_return ⟨.medium (.same medium), .same _ _⟩
  | makeOverride name seed =>
    exact h.discreet_make name (Program.discreet_return ⟨.medium (.same _), .same _ _⟩)
  | selectMedium name settings =>
    refine h.discreet_make name ((Program.discreet_ofExcept (h.settings? settings)).run_bind ?_)
    intro _ _ alike
    refine (Medium.discreet_ofSettings alike).run_bind ?_
    intro _ _ alike
    exact Program.discreet_return
      ⟨.medium alike, .of_eq _ (congrArg Answer.text alike.text.symm)⟩
  | makeKeeper name settings medium =>
    refine h.discreet_make name ((h.discreet_settingsOrEnvironment settings).run_bind ?_)
    intro _ _ alike
    cases medium with
    | some medium =>
      refine Discreet.run_bind (R := Option.Rel Medium.Alike) ?_ fun _ _ => discreet_tell alike
      exact (Program.discreet_ofExcept (h.medium? medium)).run_map fun _ _ => .some
    | none => exact discreet_tell alike .none
  | openHandle name path =>
    refine h.discreet_make name (((Handle.discreet_openAt path).run_adapt _).run_bind ?_)
    rintro handle _ rfl
    exact Program.discreet_return ⟨.handle handle, .same _ _⟩
  | operate name operation => exact h.discreet_operate name modest
  | drop name =>
    refine (h.discreet_drop name).bind ?_
    intro _ _ left
    exact Program.discreet_pure ⟨.ok (.same _ _), left⟩
  | mailboxPresent path =>
    refine (Program.discreet_perform (.fileExists path) fun _ => nofun).bind ?_
    rintro present _ rfl
    exact Program.discreet_pure ⟨.ok (.same _ _), h⟩
  | offersPrivateKey path =>
    refine (Handle.discreet_offersPrivateKey path).bind ?_
    rintro offered _ rfl
    exact Program.discreet_pure ⟨.ok (.same _ _), h⟩

end Session

/-! ## Command lines -/

namespace CommandLine

/-- Whether the command that a command line executes prints a key. -/
def AsksKey (args : List String) : Prop :=
  ∃ invocation command, Invocation.parse? args = some invocation ∧
    Command.parse? invocation.command invocation.arguments = some command ∧ command.key?.isSome

/-- The same outcome, except for the text of a key that was asked for and is printed. -/
structure Outcome.Alike (key : Prop) (outcome outcome' : Outcome) : Prop where
  exitStatus : outcome'.exitStatus = outcome.exitStatus
  message : outcome'.message = outcome.message
  usageError : outcome'.usageError = outcome.usageError
  stdout : outcome'.stdout = outcome.stdout ∨
    key ∧ outcome.exitStatus = 0 ∧ outcome'.stdout.length = outcome.stdout.length

theorem Outcome.Alike.refl (key : Prop) (outcome : Outcome) : Alike key outcome outcome :=
  ⟨rfl, rfl, rfl, .inl rfl⟩

theorem Outcome.Alike.mono {key key' : Prop} {outcome outcome' : Outcome}
    (h : Alike key outcome outcome') (weaker : key → key') : Alike key' outcome outcome' :=
  ⟨h.exitStatus, h.message, h.usageError, h.stdout.imp id (And.imp weaker id)⟩

section

variable {settings settings' : Settings}

theorem discreet_withKeeper {α β : Type} {R : α → β → Prop} {body : Keeper → Attempt Error α}
    {body' : Keeper → Attempt Error β} (h : settings.Alike settings')
    (works : ∀ keeper keeper' : Keeper, keeper.Alike keeper' →
      Discreet known (Results R) (body keeper).run (body' keeper').run) :
    Discreet known (Results R) (withKeeper settings body).run (withKeeper settings' body').run := by
  refine (Keeper.discreet_make h .none).run_bind ?_
  intro keeper keeper' alike
  exact (works keeper keeper' alike).run_ensuring alike.medium.close.run_lift

/-- Two keys of one length make two lines of one length. -/
theorem discreet_printing {body : Keeper → Attempt Error String} (h : settings.Alike settings')
    (works : ∀ keeper keeper' : Keeper, keeper.Alike keeper' →
      Discreet known (Results fun key key' => key'.length = key.length) (body keeper).run
        (body keeper').run) :
    Discreet known (Outcome.Alike True) (printing settings body) (printing settings' body) := by
  refine (discreet_withKeeper h works).bind ?_
  rintro _ _ (@⟨key, key', length⟩ | err)
  · refine Program.discreet_pure ⟨rfl, rfl, rfl, .inr ⟨trivial, rfl, ?_⟩⟩
    show (key' ++ "\n").length = (key ++ "\n").length
    rw [String.length_append, String.length_append, length]
  · exact Program.discreet_pure (.refl _ _)

theorem discreet_executeStatus (h : settings.Alike settings') (json : Bool) :
    Discreet known Eq (executeStatus settings json) (executeStatus settings' json) := by
  unfold executeStatus
  refine Discreet.bind (R := Results Eq) (discreet_withKeeper h ?_) ?_
  · intro keeper keeper' alike
    refine alike.state.run_bind ?_
    rintro state _ rfl
    refine alike.report.run_bind ?_
    rintro report _ rfl
    rw [alike.placeName]
    exact Program.discreet_return rfl
  · rintro _ _ (⟨⟨⟩⟩ | err)
    · cases json with
      | true => exact Program.discreet_pure rfl
      | false => exact Program.discreet_pure rfl
    · exact Program.discreet_pure rfl

/-- Whether a region was programmed now, earlier or not at all is no secret. -/
theorem discreet_executeInit (h : settings.Alike settings') :
    Discreet known Eq (executeInit settings) (executeInit settings') := by
  unfold executeInit
  refine Discreet.bind (R := Results Eq) (discreet_withKeeper h ?_) ?_
  · intro keeper keeper' alike
    refine alike.provide.run_bind ?_
    rintro outcome _ rfl
    refine alike.state.run_bind ?_
    rintro state _ rfl
    refine alike.report.run_bind ?_
    rintro report _ rfl
    exact Program.discreet_return rfl
  · rintro _ _ (⟨⟨⟩⟩ | err)
    · exact Program.discreet_pure rfl
    · exact Program.discreet_pure rfl

theorem discreet_executeCheck (h : settings.Alike settings') :
    Discreet known Eq (executeCheck settings) (executeCheck settings') := by
  refine (discreet_withKeeper h fun _ _ alike => alike.isProvided).bind ?_
  rintro _ _ (@⟨provided, _, ⟨⟩⟩ | err)
  · cases provided with
    | true => exact Program.discreet_pure rfl
    | false => exact Program.discreet_pure rfl
  · exact Program.discreet_pure rfl

/-- A command that prints a key shows its length; all others print the same. -/
theorem discreet_execute (h : settings.Alike settings') (command : Command) :
    Discreet known (Outcome.Alike command.key?.isSome) (execute settings command)
      (execute settings' command) := by
  have equal : ∀ outcome outcome' : Outcome, outcome = outcome' →
      outcome.Alike command.key?.isSome outcome' := by
    rintro outcome _ rfl
    exact .refl _ outcome
  cases command with
  | version => exact Program.discreet_pure (.refl _ _)
  | status json => exact (discreet_executeStatus h json).mono equal
  | init => exact (discreet_executeInit h).mono equal
  | check => exact (discreet_executeCheck h).mono equal
  | hex size info =>
    refine (discreet_printing h fun _ _ alike => alike.hexKey (.text info) size).mono ?_
    exact fun _ _ alike => alike.mono fun _ => rfl
  | uuid info =>
    refine (discreet_printing h fun _ _ alike => ?_).mono fun _ _ alike => alike.mono fun _ => rfl
    refine (alike.uuid (.text info)).run_map fun uuid uuid' _ => ?_
    rw [Uuid.length_text, Uuid.length_text]

end

variable {env env' : Environment}

/-- Arguments that cannot be read are refused in front of the environment. -/
theorem discreet_run (h : env.Alike env') (args : List String) :
    Discreet known (Outcome.Alike (AsksKey args)) (run args env) (run args env') := by
  unfold run
  cases read : Invocation.parse? args with
  | none => exact Program.discreet_pure (.refl _ _)
  | some invocation =>
    refine (Settings.discreet_load h _ _).bind ?_
    rintro _ _ ⟨rfl, rfl⟩
    cases understood : Command.parse? invocation.command invocation.arguments with
    | none => exact Program.discreet_pure (.refl _ _)
    | some command =>
      refine (discreet_execute (.ofEnvironment h _ _) command).mono fun _ _ alike => ?_
      exact alike.mono fun asks => ⟨invocation, command, read, understood, asks⟩

/-- The same transcript, except for the text of a key that was asked for and is printed. -/
structure Transcript.Alike (key : Prop) (transcript transcript' : Transcript) : Prop where
  exitStatus : transcript'.exitStatus = transcript.exitStatus
  stderr : transcript'.stderr = transcript.stderr
  usageError : transcript'.usageError = transcript.usageError
  events : transcript'.events = transcript.events
  stdout : transcript'.stdout = transcript.stdout ∨
    key ∧ transcript.exitStatus = 0 ∧ transcript'.stdout.length = transcript.stdout.length

/-- What is seen of a whole command line, and the machines it leaves. -/
theorem alike_invoke {m m' : Machine} (h : env.Alike env') (twins : m.Twins known m')
    (time : String) (args : List String) :
    (invoke time args env m).1.Alike (AsksKey args) (invoke time args env' m').1 ∧
      (invoke time args env m).2.Twins known (invoke time args env' m').2 := by
  obtain ⟨outcomes, left⟩ := discreet_run h args (twins.unrecorded.withClaims .none)
  refine ⟨⟨outcomes.exitStatus, ?_, outcomes.usageError, left.events, outcomes.stdout⟩, left⟩
  simp only [invoke, left.log, outcomes.message]

end CommandLine

/-! ## Worlds -/

/-- What is seen of a move: of a step, the environment of its process and what came of it; of a
command line, what is seen of the process, and its log down to the last line. -/
inductive Sight where
  | step (env : Environment) (step : Step) (trace : Session.Trace)
  | invoke (args : List String) (transcript : CommandLine.Transcript) (log : List Record)
  | restart

inductive Sight.Alike : Sight → Sight → Prop
  | step {env env' : Environment} {step : Step} {answer answer' : Except Error Answer}
      (events : List Event) (log : List Record)
      (h : Results (Answer.Alike env env' step) answer answer') :
      Alike (.step env step ⟨answer, events, log⟩) (.step env' step ⟨answer', events, log⟩)
  | invoke {args : List String} {transcript transcript' : CommandLine.Transcript}
      (log : List Record) (h : transcript.Alike (CommandLine.AsksKey args) transcript') :
      Alike (.invoke args transcript log) (.invoke args transcript' log)
  | restart : Alike .restart .restart

/-- The same move, up to the text of an override, if it reveals no secret and forges no answer. -/
inductive Move.Alike : Move → Move → Prop
  | step {step : Step} (modest : ¬step.Reveals) (honest : Move.Honest (.step step)) :
      Alike (.step step) (.step step)
  | invoke {env env' : Environment} (time : String) (args : List String) (h : env.Alike env') :
      Alike (.invoke time args env) (.invoke time args env')
  | restart {env env' : Environment} (h : env.Alike env') : Alike (.restart env) (.restart env')

namespace World

/-- Worlds that differ in their secrets at most. -/
structure Alike (w w' : World) : Prop where
  session : w.session.Alike w'.session
  machine : w.machine.Twins (fun _ => False) w'.machine

def sight (w : World) : Move → Sight
  | .step step => .step w.session.environment step (w.session.advance w.machine step).1
  | .invoke time args env =>
    .invoke args (CommandLine.invoke time args env w.machine).1
      (CommandLine.invoke time args env w.machine).2.log
  | .restart _ => .restart

/-- What is seen of moves, one after the other. -/
def sights (w : World) : List Move → List Sight
  | [] => []
  | move :: rest => w.sight move :: (w.advance move).sights rest

variable {w w' : World} {move move' : Move}

theorem sight_step (step : Step) : w.sight (.step step) =
    .step w.session.environment step
      ⟨((w.session.perform step).run (w.startOf (.step step))).1.1,
        ((w.session.perform step).run (w.startOf (.step step))).2.events,
        ((w.session.perform step).run (w.startOf (.step step))).2.log⟩ := by
  cases step <;> rfl

theorem Alike.startOf {step : Step} (h : w.Alike w') (honest : Move.Honest (.step step)) :
    (w.startOf (.step step)).Twins (fun _ => False) (w'.startOf (.step step)) := by
  have fresh := h.machine.unrecorded
  cases step with
  | alterDevice change =>
    have after := honest_startOf h.machine.device.honest honest
    exact fresh.withDevice (h.machine.device.alter after)
  | _ => exact fresh

/-- One move looks the same in both worlds, and leaves worlds that are alike. -/
theorem Alike.advance (h : w.Alike w') (same : move.Alike move') :
    (w.sight move).Alike (w'.sight move') ∧ (w.advance move).Alike (w'.advance move') := by
  cases same with
  | @step step modest honest =>
    obtain ⟨stepped, left⟩ := h.session.discreet_perform modest (h.startOf honest)
    rw [sight_step, sight_step, advance_step, advance_step, left.events, left.log]
    exact ⟨.step _ _ stepped.answer, stepped.session, left⟩
  | invoke time args alike =>
    obtain ⟨transcripts, left⟩ := CommandLine.alike_invoke alike h.machine time args
    refine ⟨?_, h.session, ?_⟩
    · rw [sight, sight, left.log]
      exact .invoke _ transcripts
    · simp only [World.advance, h.machine.claims]
      exact left.withClaims w.machine.claims
  | restart alike =>
    exact ⟨.restart, Session.alike_start alike h.session.closedCalls, h.machine.withClaims .none⟩

/-- Worlds that differ in their secrets at most look the same all along moves that are the same up
to the text of an override and reveal no secret. -/
theorem secrecy (w w' : World) (alike : w.Alike w') {moves moves' : List Move}
    (same : List.Forall₂ Move.Alike moves moves') :
    List.Forall₂ Sight.Alike (w.sights moves) (w'.sights moves') := by
  induction same generalizing w w' with
  | nil => exact .nil
  | cons first _ ih =>
    obtain ⟨sights, left⟩ := alike.advance first
    exact .cons sights (ih _ _ left)

/-- A process that has done nothing, on a device that was provided with a secret. -/
def provided (env : Environment) (secret : Block) : World :=
  ⟨.start env, .start { Device.blank with rows := ⟨secret, Block.zero⟩ } []⟩

/-- A UUID in the session, and then a key in hexadecimal from a command line with an override. -/
def derivations (override : String) : List Move :=
  [.step (.makeKeeper "k" none none), .step (.operate "k" (.uuid (.text "disk"))),
    .invoke "" ["hex", "16", "disk"] { Environment.unset with override := some override }]

/-- Two secrets on the devices, and two overrides. -/
theorem secrecy_provided :
    (provided .unset Machine.standardDraw).Alike (provided .unset Machine.standardDraw.reverse) ∧
      List.Forall₂ Move.Alike (derivations "left") (derivations "right") ∧
      List.Forall₂ Sight.Alike ((provided .unset Machine.standardDraw).sights (derivations "left"))
        ((provided .unset Machine.standardDraw.reverse).sights (derivations "right")) := by
  have alike : (provided .unset Machine.standardDraw).Alike
      (provided .unset Machine.standardDraw.reverse) := by
    refine ⟨Session.alike_start ⟨rfl, .same none⟩ rfl, rfl, rfl, ⟨?_, fun _ => False.elim⟩, nofun⟩
    intro region
    cases region with
    | privateKey => exact iff_of_false (by decide +kernel) (by decide +kernel)
    | customer => exact Iff.rfl
  have same : List.Forall₂ Move.Alike (derivations "left") (derivations "right") := by
    refine .cons (.step not_false trivial) (.cons (.step not_false trivial) (.cons ?_ .nil))
    refine .invoke "" _ ⟨rfl, .hidden ?_ ?_⟩
    · decide +kernel
    · decide +kernel
  exact ⟨alike, same, secrecy _ _ alike same⟩

end World

end DeviceKeys
