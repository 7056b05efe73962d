import DeviceKeys.Proofs.Opening
import DeviceKeys.Proofs.Permanence
import DeviceKeys.Proofs.Secret

/-!
# Keys that stay

A request for a key names a region, a salt, a label and a shape, and a move derives a key if it
makes a request of a keeper of the device and gets an answer (`World.Derives`): a step of a session
and a command line do so in the same way. An answer is what the rows of the region give for the
request, and rows that have given one key are settled. So all later moves derive the same key for
the same request, whatever became of the attempts to provide the region with a secret before,
between and behind them.
-/

set_option autoImplicit false

namespace DeviceKeys

/-! ## Requests for keys -/

/-- The shape in which a key is asked for. -/
inductive KeyForm where
  | bytes (length : Int)
  | hex (length : Int)
  | uuid
  deriving DecidableEq, Repr

structure KeyRequest where
  region : Region
  salt : Option Bytes
  label : Bytes
  form : KeyForm
  deriving DecidableEq, Repr

namespace KeyRequest

/-- What a secret gives for a request. -/
def answer (request : KeyRequest) (secret : RootSecret) : Except Error Answer :=
  match request.form with
  | .bytes length =>
    (Key.ofLength secret (.bytes request.label) length request.salt).map .bytes
  | .hex length =>
    (Key.hexOfLength secret (.bytes request.label) length request.salt).map .text
  | .uuid => .ok (.text (Key.uuid secret (.bytes request.label) request.salt).text)

/-- The request for a key of a keeper's medium, unless that is no region of the device. -/
def of? (keeper : Keeper) (label : Label) (form : KeyForm) : Option KeyRequest :=
  keeper.medium.region?.map fun region => ⟨region, keeper.settings.salt, label.toBytes, form⟩

end KeyRequest

/-- The label and the shape of the key that an operation asks for. -/
def Operation.key? : Operation → Option (Label × KeyForm)
  | .key label length => some (label, .bytes length)
  | .hexKey label length => some (label, .hex length)
  | .uuid label => some (label, .uuid)
  | _ => none

/-- The request that a step makes of a keeper of the device. -/
def Session.keyRequest? (s : Session) : Step → Option KeyRequest
  | .operate name operation =>
    match s.item? name with
    | some (.keeper keeper) =>
      operation.key?.bind fun (label, form) => KeyRequest.of? keeper label form
    | _ => none
  | _ => none

namespace CommandLine

/-- The label and the shape of the key that a command prints. -/
def Command.key? : Command → Option (Label × KeyForm)
  | .hex size info => some (.text info, .hex size)
  | .uuid info => some (.text info, .uuid)
  | _ => none

/-- The request that a command line makes of its keeper, if that is one of the device. -/
def keyRequest? (args : List String) (env : Environment) : Option KeyRequest := do
  let invocation ← Invocation.parse? args
  let command ← Command.parse? invocation.command invocation.arguments
  let (label, form) ← command.key?
  KeyRequest.of? (invocation.keeper env) label form

end CommandLine

/-! ## Answers -/

namespace Keeper

variable {keeper : Keeper} {label : Label} {form : KeyForm} {request : KeyRequest} {m : Machine}
  {answer : Answer}

/-- The operation of a keeper that gives a key in a certain shape. -/
def derive (keeper : Keeper) (label : Label) : KeyForm → Attempt Error Answer
  | .bytes length => .bytes <$> keeper.key label length
  | .hex length => .text <$> keeper.hexKey label length
  | .uuid => (fun uuid => .text uuid.text) <$> keeper.uuid label

/-- A keeper of the device gives what the rows give for the request, and rows of zeros give
nothing. -/
theorem derive_eq_ok (honest : m.device.Honest) (asked : KeyRequest.of? keeper label form =
    some request) (h : ((keeper.derive label form).run.run m).1 = .ok answer) :
    request.answer ⟨m.device.rows.get request.region⟩ = .ok answer ∧
      m.device.rows.get request.region ≠ Block.zero := by
  obtain ⟨settings, medium⟩ := keeper
  cases medium with
  | override seed => cases asked
  | otp region path claim =>
    obtain rfl := Option.some.inj asked
    -- All three shapes ask for the secret first, and then only compute.
    have secret : ∀ {α : Type} {next : RootSecret → Attempt Error α} {value : α},
        ((Keeper.secret ⟨settings, .otp region path claim⟩ >>= next).run.run m).1 = .ok value →
        m.device.rows.get region ≠ Block.zero ∧ ∃ m',
          ((next ⟨m.device.rows.get region⟩).run.run m').1 = .ok value := by
      intro α next value derived
      obtain ⟨secret, fetched, rest⟩ := Program.run_bind_eq_ok derived
      obtain ⟨rfl, filled⟩ := secret_eq_ok honest fetched
      exact ⟨filled, _, rest⟩
    cases form with
    | bytes length =>
      obtain ⟨key, derived, rfl⟩ := Program.run_map_eq_ok h
      obtain ⟨filled, m', rest⟩ := secret derived
      obtain ⟨key', computed, logged⟩ := Program.run_bind_eq_ok rest
      obtain rfl : key' = key := Except.ok.inj logged
      exact ⟨congrArg (Except.map Answer.bytes) computed, filled⟩
    | hex length =>
      obtain ⟨key, derived, rfl⟩ := Program.run_map_eq_ok h
      obtain ⟨filled, m', computed⟩ := secret derived
      exact ⟨congrArg (Except.map Answer.text) computed, filled⟩
    | uuid =>
      obtain ⟨uuid, derived, rfl⟩ := Program.run_map_eq_ok h
      obtain ⟨filled, m', computed⟩ := secret derived
      obtain rfl := Except.ok.inj computed
      exact ⟨rfl, filled⟩

end Keeper

/-! ## Steps and command lines that ask for keys -/

theorem Session.keyRequest?_eq_some {s : Session} {step : Step} {request : KeyRequest}
    (asked : s.keyRequest? step = some request) :
    ∃ name operation keeper label form, step = .operate name operation ∧
      s.item? name = some (.keeper keeper) ∧ operation.key? = some (label, form) ∧
      KeyRequest.of? keeper label form = some request := by
  cases step with
  | operate name operation =>
    simp only [keyRequest?] at asked
    split at asked
    · next keeper item =>
      obtain ⟨⟨label, form⟩, asks, asked⟩ := Option.bind_eq_some_iff.1 asked
      exact ⟨name, operation, keeper, label, form, rfl, item, asks, asked⟩
    · cases asked
  | _ => cases asked

theorem Item.onKeeper_key {operation : Operation} {label : Label} {form : KeyForm}
    (asks : operation.key? = some (label, form)) (name : String) (keeper : Keeper) :
    onKeeper name keeper operation = keeper.derive label form := by
  cases operation <;> cases asks <;> rfl

theorem ErrorKind.exitStatus_ne_zero (kind : ErrorKind) : kind.exitStatus ≠ 0 := by
  cases kind <;> decide

namespace CommandLine

open Keeper (derive)

variable {settings : Settings} {m m' : Machine} {keeper : Keeper} {text : String}

/-- A command that prints what its keeper gives succeeds only if the keeper gives it. -/
theorem printing_eq_ok {body : Keeper → Attempt Error String}
    (made : (Keeper.make settings none).run.run m = (.ok keeper, m'))
    (succeeded : ((printing settings body).run m).1.exitStatus = 0)
    (printed : ((printing settings body).run m).1.stdout = text ++ "\n") :
    ((body keeper).run.run m').1 = .ok text := by
  rw [← run_withKeeper made]
  rw [printing, Program.run_bind] at succeeded printed
  cases result : ((withKeeper settings body).run.run m).1 with
  | error err =>
    rw [result] at succeeded
    exact absurd succeeded err.kind.exitStatus_ne_zero
  | ok shown =>
    rw [result] at printed
    have same : shown ++ "\n" = text ++ "\n" := printed
    rw [String.append_left_inj] at same
    rw [same]

/-- What a command prints of a key is what its keeper gives. -/
theorem execute_key {command : Command} {label : Label} {form : KeyForm}
    (asks : command.key? = some (label, form))
    (made : (Keeper.make settings none).run.run m = (.ok keeper, m'))
    (succeeded : ((execute settings command).run m).1.exitStatus = 0)
    (printed : ((execute settings command).run m).1.stdout = text ++ "\n") :
    ((keeper.derive label form).run.run m').1 = .ok (.text text) := by
  cases command with
  | hex size info =>
    obtain ⟨rfl, rfl⟩ := Prod.mk.inj (Option.some.inj asks)
    have given := printing_eq_ok made succeeded printed
    rw [derive, Program.run_attempt_map, given]
    rfl
  | uuid info =>
    obtain ⟨rfl, rfl⟩ := Prod.mk.inj (Option.some.inj asks)
    obtain ⟨uuid, given, rfl⟩ := Program.run_map_eq_ok (printing_eq_ok made succeeded printed)
    rw [derive, Program.run_attempt_map, given]
    rfl
  | _ => cases asks

end CommandLine

/-! ## Moves that derive keys -/

namespace World

variable {w : World} {move : Move} {request : KeyRequest} {answer : Answer}

/-- A move derives a key if it asks a keeper of the device for one and succeeds. -/
inductive Derives (w : World) : Move → KeyRequest → Answer → Prop
  | step {step : Step} {request : KeyRequest} {answer : Answer}
      (asked : w.session.keyRequest? step = some request)
      (answered : (w.session.advance w.machine step).1.answer = .ok answer) :
      Derives w (.step step) request answer
  | invoke {time : String} {args : List String} {env : Environment} {request : KeyRequest}
      {text : String} (asked : CommandLine.keyRequest? args env = some request)
      (succeeded : (CommandLine.invoke time args env w.machine).1.exitStatus = 0)
      (printed : (CommandLine.invoke time args env w.machine).1.stdout = text ++ "\n") :
      Derives w (.invoke time args env) request (.text text)

/-- The key that a move derives is that of the rows, which are not zeros. -/
theorem Derives.answer_eq (h : w.Derives move request answer)
    (honest : w.machine.device.Honest) :
    request.answer ⟨w.machine.device.rows.get request.region⟩ = .ok answer ∧
      w.machine.device.rows.get request.region ≠ Block.zero := by
  cases h with
  | step asked answered =>
    obtain ⟨name, operation, keeper, label, form, rfl, item, asks, asked⟩ :=
      Session.keyRequest?_eq_some asked
    refine Keeper.derive_eq_ok (m := w.machine.unrecorded) honest asked ?_
    rw [← answered]
    simp only [Session.advance, Session.perform, Session.operate, item, Item.onKeeper_key asks,
      Program.run_bind]
    rfl
  | @invoke time args env _ text asked succeeded printed =>
    simp only [CommandLine.keyRequest?, Option.bind_eq_bind, Option.bind_eq_some_iff] at asked
    obtain ⟨invocation, read, command, understood, ⟨label, form⟩, asks, asked⟩ := asked
    have made := CommandLine.run_make_opened env invocation w.machine
    rw [CommandLine.exitStatus_invoke, CommandLine.outcome_eq read understood] at succeeded
    rw [CommandLine.stdout_invoke, CommandLine.outcome_eq read understood] at printed
    rw [← CommandLine.device_opened invocation env] at honest ⊢
    exact Keeper.derive_eq_ok honest asked (CommandLine.execute_key asks made succeeded printed)

/-- A move that derives a key does nothing else to the device. -/
theorem Derives.tame (h : w.Derives move request answer) (region : Region) :
    move.Tame region := by
  cases h with
  | step asked answered =>
    obtain ⟨name, operation, keeper, label, form, rfl, item, asks, asked⟩ :=
      Session.keyRequest?_eq_some asked
    refine ⟨trivial, trivial, ?_, trivial⟩
    intro writes
    cases operation with
    | exchange tag value => cases asks
    | _ => exact writes
  | invoke asked succeeded printed => exact ⟨trivial, trivial, not_false, trivial⟩

/-- A region that has given a key is settled. -/
theorem Derives.settled (h : w.Derives move request answer) (honest : w.machine.device.Honest)
    (alone : w.machine.device.Alone) :
    w.Settled request.region (w.machine.device.rows.get request.region) :=
  ⟨honest, alone, rfl, (h.answer_eq honest).2⟩

/-- Whatever came before, and whatever the library and its callers do between, two moves that
derive a key for the same request derive the same key. -/
theorem stable_keys (w : World) (honest : w.machine.device.Honest)
    (alone : w.machine.device.Alone) (before : List Move)
    (usual : ∀ move ∈ before, move.Honest ∧ move.Alone) {first second : Move}
    {between : List Move} {request : KeyRequest} {answer answer' : Answer}
    (derived : (w.play before).Derives first request answer)
    (tame : ∀ move ∈ between, move.Tame request.region)
    (again : (w.play (before ++ first :: between)).Derives second request answer') :
    answer' = answer := by
  have honestly := honest_play honest fun move mem => (usual move mem).1
  have alone := alone_play alone fun move mem => (usual move mem).2
  have settled := (derived.settled honestly alone).advance (derived.tame request.region)
  have still := settled.play tame
  rw [play_append, play] at again
  have given := (again.answer_eq still.honest).1
  rw [still.holds, (derived.answer_eq honestly).1] at given
  exact (Except.ok.inj given).symm

/-- A command line and a keeper of the session give one UUID, with another attempt to provide the
region between them. -/
theorem stable_keys_uuid :
    first.machine.device.Honest ∧ first.machine.device.Alone ∧
      (∀ move ∈ [init], move.Honest ∧ move.Alone) ∧
      (first.play [init]).Derives (.invoke "" ["uuid", "disk"] .unset)
        ⟨.privateKey, none, Bytes.ofText "disk", .uuid⟩
        (.text "2f823956-2fb5-422d-ba39-79a96cc33ec1") ∧
      (∀ move ∈ [init, .step (.makeKeeper "k" none none)], move.Tame .privateKey) ∧
      ∃ answer, (first.play [init, .invoke "" ["uuid", "disk"] .unset, init,
          .step (.makeKeeper "k" none none)]).Derives (.step (.operate "k" (.uuid (.text "disk"))))
            ⟨.privateKey, none, Bytes.ofText "disk", .uuid⟩ answer ∧
        answer = .text "2f823956-2fb5-422d-ba39-79a96cc33ec1" := by
  have honest : first.machine.device.Honest := List.forall_mem_nil _
  have alone : first.machine.device.Alone := List.forall_mem_nil _
  have usual : ∀ move ∈ [init], move.Honest ∧ move.Alone :=
    List.forall_mem_singleton.2 ⟨trivial, trivial⟩
  have derived : (first.play [init]).Derives (.invoke "" ["uuid", "disk"] .unset)
      ⟨.privateKey, none, Bytes.ofText "disk", .uuid⟩
      (.text "2f823956-2fb5-422d-ba39-79a96cc33ec1") :=
    .invoke (by decide +kernel) (by decide +kernel) (by decide +kernel)
  have tame : ∀ move ∈ [init, .step (.makeKeeper "k" none none)], move.Tame .privateKey := by
    refine List.forall_mem_cons.2 ⟨⟨trivial, trivial, not_false, trivial⟩, ?_⟩
    exact List.forall_mem_singleton.2 ⟨trivial, trivial, not_false, trivial⟩
  have again : (first.play ([init] ++ .invoke "" ["uuid", "disk"] .unset :: [init,
      .step (.makeKeeper "k" none none)])).Derives (.step (.operate "k" (.uuid (.text "disk"))))
        ⟨.privateKey, none, Bytes.ofText "disk", .uuid⟩
        (.text "2f823956-2fb5-422d-ba39-79a96cc33ec1") :=
    .step (by decide +kernel) (by decide +kernel)
  exact ⟨honest, alone, usual, derived, tame, _, again,
    stable_keys first honest alone [init] usual derived tame again⟩

end World

end DeviceKeys
