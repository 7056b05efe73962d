import DeviceKeys.Proofs.Brackets
import DeviceKeys.Proofs.Confinement
import DeviceKeys.Proofs.Opening
import DeviceKeys.Proofs.Options

/-!
# Commands that print a key

`hex` and `uuid` print a key and nothing else, or print nothing and say by the exit status why. The
key is made of three things: the secret, which is that of an override wherever one is set and
otherwise the answer to the second read of a region; the region and the salt, for which an option
wins over a variable; and the arguments of the command. Whether there is a secret is decided before
the length is looked at, by the attempt to get at it, which knows nothing of the command.
-/

set_option autoImplicit false

namespace DeviceKeys

/-! ## Answers to reads -/

/-- What an exchange has to say about a region: how it was answered, if it was a read of it. -/
def Exchange.answer? (region : Region) (e : Exchange) : Option (Except CallError Block) :=
  if e.event = .request (.read region) then some e.outcome else none

section

variable {region : Region} {path : String} {calls : List Moment}

/-- A visit that gave a value has had one read, which gave it. -/
theorem Handle.Visited.answers {value : Block} (h : Visited region path (.ok value) calls) :
    (calls.filterMap Moment.exchange?).filterMap (Exchange.answer? region) = [.ok value] := by
  obtain ⟨o, r, c, rfl, opens, reads, closes⟩ := h.of_ok
  obtain ⟨opened, openExchange⟩ := opens.exchange?_of_ok
  obtain ⟨closed, closeExchange⟩ := closes.exchange?_of_ok
  simp [openExchange, closeExchange, reads.exchange?, Exchange.answer?]

theorem Medium.Inspected.programmed (h : Inspected region path (.ok .programmed) calls) :
    ∃ value, Handle.Visited region path (.ok value) calls := by
  obtain ⟨seen, visited, judged⟩ := h
  obtain ⟨value, rfl, -⟩ := judge_eq_programmed judged.symm
  exact ⟨value, visited⟩

/-- A secret of the device is the answer to the second read of its region, and is not zeros. -/
theorem Keeper.Secured.answers {secret : RootSecret}
    (h : Secured region path (.ok secret) calls) :
    (∃ first, (calls.filterMap Moment.exchange?).filterMap (Exchange.answer? region) =
      [first, .ok secret.block]) ∧ secret.block ≠ Block.zero := by
  cases h with
  | @secured value calls reading looked visited found =>
    obtain ⟨first, seen⟩ := looked.programmed
    refine ⟨⟨.ok first, ?_⟩, found⟩
    rw [List.filterMap_append, List.filterMap_append, seen.answers, visited.answers]
    rfl

/-- The secret of an override is the digest of its bytes. -/
theorem Keeper.bytes_of_override {settings : Settings} {seed : Bytes} {secret : RootSecret}
    {m : Machine}
    (given : ((Keeper.secret ⟨settings, .override seed⟩).run.run m).1 = .ok secret) :
    secret.bytes = Sha3.sha3_256 seed := by
  have given : ((ite _ _ _ : Attempt Error RootSecret).run.run m).1 = .ok secret := given
  split at given
  · cases given
  · cases given
    exact RootSecret.bytes_ofSeed seed

end

/-! ## Calls of a command line -/

namespace Program

variable {α : Type} {program : Program α} {m : Machine}

/-- A run that leaves the record of the machine as it was has made no calls. -/
theorem exchanges_eq_nil (h : (program.run m).2.events = m.events) : program.exchanges m = [] := by
  rw [events_run_exchanges] at h
  exact List.map_eq_nil_iff.1 (List.append_right_eq_self.1 h)

end Program

namespace CommandLine

variable {α : Type} {settings : Settings} {m m' : Machine} {keeper : Keeper}

/-- The calls of a command are those that it makes with its keeper. -/
theorem exchanges_withKeeper {body : Keeper → Attempt Error α}
    (made : (Keeper.make settings none).run.run m = (.ok keeper, m'))
    (quiet : m'.events = m.events) :
    (withKeeper settings body).run.exchanges m = (body keeper).run.exchanges m' := by
  have silent : (Keeper.make settings none).run.exchanges m = [] :=
    Program.exchanges_eq_nil (by rw [made]; exact quiet)
  have closed : ∀ m, keeper.close.exchanges m = [] := by
    intro m
    refine Program.exchanges_eq_nil ?_
    obtain ⟨settings, medium⟩ := keeper
    cases medium <;> rfl
  refine (Program.excerpt_attempt_bind _ _ _ m).trans ?_
  rw [made]
  refine (congrArg (· ++ _) silent).trans ?_
  refine (Program.excerpt_ensuring _ _ _ m').trans ?_
  refine (congrArg (_ ++ ·) ((Program.excerpt_lift _ _ _).trans (closed _))).trans ?_
  exact List.append_nil _

/-- What a command ends with that prints what its keeper gives. -/
theorem run_printing {body : Keeper → Attempt Error String}
    (made : (Keeper.make settings none).run.run m = (.ok keeper, m')) :
    ((printing settings body).run m).1 = match ((body keeper).run.run m').1 with
      | .ok text => Outcome.success s!"{text}\n"
      | .error err => Outcome.failure err := by
  rw [printing, Program.run_bind, ← run_withKeeper made]
  cases ((withKeeper settings body).run.run m).1 <;> rfl

theorem exchanges_printing {body : Keeper → Attempt Error String}
    (made : (Keeper.make settings none).run.run m = (.ok keeper, m'))
    (quiet : m'.events = m.events) :
    (printing settings body).exchanges m = (body keeper).run.exchanges m' := by
  refine (Program.excerpt_bind _ _ _ m).trans ?_
  rw [← exchanges_withKeeper made quiet]
  cases ((withKeeper settings body).run.run m).1 <;> exact List.append_nil _

section

variable {args : List String} {env : Environment} {invocation : Invocation} {command : Command}

/-- The exchanges of a command line, as a process of its own. -/
def exchanges (args : List String) (env : Environment) (m : Machine) : List Exchange :=
  (run args env).exchanges { m.unrecorded with claims := .none }

theorem events_invoke (time : String) (args : List String) (env : Environment) (m : Machine) :
    (invoke time args env m).1.events = (exchanges args env m).map Exchange.event :=
  Program.events_run_exchanges (run args env) { m.unrecorded with claims := .none }

/-- The exchanges of a command line are those of its command. -/
theorem exchanges_eq (read : Invocation.parse? args = some invocation)
    (understood : Command.parse? invocation.command invocation.arguments = some command)
    (m : Machine) : exchanges args env m =
      (execute (invocation.settings env) command).exchanges (invocation.prepare env m) := by
  obtain ⟨log, loaded⟩ := Settings.run_load env
    (if invocation.options.customer then some true else none) invocation.options.salt
    { m.unrecorded with claims := .none }
  have silent : (Settings.load env (if invocation.options.customer then some true else none)
      invocation.options.salt).exchanges { m.unrecorded with claims := .none } = [] :=
    Program.exchanges_eq_nil (by rw [loaded])
  simp only [exchanges, run, read, understood]
  refine (Program.excerpt_bind _ _ _ _).trans ((congrArg (· ++ _) silent).trans ?_)
  rw [loaded, Invocation.prepare, loaded]
  rfl

theorem events_opened (invocation : Invocation) (env : Environment) (m : Machine) :
    (invocation.opened env m).events = (invocation.prepare env m).events := by
  obtain ⟨log, made⟩ := exists_make env invocation m
  rw [Invocation.opened, made]

/-! ## What a key is made of -/

/-- The region that holds the secret: that of the customer if the option or the variable says so. -/
def Invocation.region (invocation : Invocation) (env : Environment) : Region :=
  if invocation.options.customer || env.customer.any Environment.isTruthy then .customer
  else .privateKey

/-- The salt of the option, even if it is empty, or else that of the variable. -/
def Invocation.salt (invocation : Invocation) (env : Environment) : Option Bytes :=
  match invocation.options.salt, env.salt with
  | some given, _ => some (Bytes.ofText given)
  | none, some inherited => some (Bytes.ofText inherited)
  | none, none => none

theorem region_settings : (invocation.settings env).region = invocation.region env := by
  unfold Invocation.settings Settings.ofEnvironment Settings.region Invocation.region
  cases invocation.options.customer <;> cases env.customer <;> rfl

theorem salt_settings : (invocation.settings env).salt = invocation.salt env := by
  unfold Invocation.settings Settings.ofEnvironment Invocation.salt
  cases invocation.options.salt <;> cases env.salt <;> rfl

/-- Where the secret of a command line comes from: an override, even an empty one, is digested; else
the device has answered twice, and the second answer is the secret, which is not zeros. -/
def Invocation.Supplies (invocation : Invocation) (env : Environment) (exchanges : List Exchange)
    (secret : RootSecret) : Prop :=
  match env.override with
  | some text => secret.bytes = Sha3.sha3_256 (Bytes.ofText text)
  | none => (∃ first, exchanges.filterMap (Exchange.answer? (invocation.region env)) =
      [first, .ok secret.block]) ∧ secret.block ≠ Block.zero

/-- What the attempt of a command line to get at the secret comes to. -/
def Invocation.secured (invocation : Invocation) (env : Environment) (m : Machine) :
    Except Error RootSecret :=
  ((invocation.keeper env).secret.run.run (invocation.opened env m)).1

theorem supplies_of_secret {secret : RootSecret} {m : Machine}
    (given : ((invocation.keeper env).secret.run.run m).1 = .ok secret) :
    invocation.Supplies env ((invocation.keeper env).secret.run.exchanges m) secret := by
  have same : (invocation.settings env).override = env.override := rfl
  unfold Invocation.Supplies
  cases override : env.override with
  | some text =>
    have keeper : invocation.keeper env =
        ⟨invocation.settings env, .override (Bytes.ofText text)⟩ := by
      rw [Invocation.keeper, Settings.medium, same, override]
    rw [keeper] at given
    exact Keeper.bytes_of_override given
  | none =>
    have keeper : invocation.keeper env = ⟨invocation.settings env,
        .otp (invocation.region env) (invocation.settings env).path 0⟩ := by
      rw [Invocation.keeper, Settings.medium, same, override, region_settings]
    rw [keeper] at given ⊢
    rw [Program.exchanges_eq_calls]
    have ways := Keeper.secured (invocation.settings env) (invocation.region env)
      (invocation.settings env).path 0 m
    rw [given] at ways
    exact ways.answers

end

/-! ## Ends -/

/-- How a command ends that prints a key, by what the attempt to get at the secret came to. Only a
key that could be made is printed; everything else leaves the standard output empty. -/
inductive KeyEnd (secured : Except Error RootSecret) (supplies : RootSecret → Prop)
    (makes : RootSecret → String → Prop) : (exitStatus : Nat) → (stdout : String) → Prop
  | unavailable {err : Error} (failed : secured = .error err)
      (kind : err.kind = .regionUnavailable) : KeyEnd secured supplies makes 2 ""
  | blank {err : Error} (failed : secured = .error err) (kind : err.kind = .regionBlank) :
      KeyEnd secured supplies makes 4 ""
  | unread {err : Error} (failed : secured = .error err) (kind : err.kind = .readingFailed) :
      KeyEnd secured supplies makes 5 ""
  | refused {secret : RootSecret} (given : secured = .ok secret) (supplied : supplies secret)
      (nothing : ∀ text, ¬makes secret text) : KeyEnd secured supplies makes 6 ""
  | printed {secret : RootSecret} {text : String} (given : secured = .ok secret)
      (supplied : supplies secret) (made : makes secret text) :
      KeyEnd secured supplies makes 0 (text ++ "\n")

/-- The text of a key of so many bytes, unless no key has so many. -/
def HexKey (salt : Option Bytes) (info : String) (size : Int) (secret : RootSecret)
    (text : String) : Prop :=
  0 ≤ size ∧ size ≤ 16320 ∧
    text = Bytes.hex (Hkdf.expand (Hkdf.extract salt secret.bytes) (Bytes.ofText info) size.toNat)

/-- The text of the version-4 UUID that is made of the first sixteen bytes. -/
def UuidKey (salt : Option Bytes) (info : String) (secret : RootSecret) (text : String) : Prop :=
  ∃ raw : Vector UInt8 16,
    raw.toList = Hkdf.expand (Hkdf.extract salt secret.bytes) (Bytes.ofText info) 16 ∧
      text = (Uuid.ofRandom raw).text

/-- A size that a command line can name has few enough digits to be named in a message. -/
theorem isWritable_of_parse? {name : CommandName} {arguments : List String} {size : Int}
    {info : String} (understood : Command.parse? name arguments = some (.hex size info)) :
    Text.isWritable size = true := by
  simp only [Command.parse?, Option.bind_eq_bind, Option.bind_eq_some_iff] at understood
  obtain ⟨scanned, -, understood⟩ := understood
  split at understood <;> try cases understood
  obtain ⟨_, read, same⟩ := Option.map_eq_some_iff.1 understood
  cases same
  exact Text.isWritable_of_integer? read

/-- A key of a secret that is there can be made, or has a length that none has. -/
theorem hexKey_of_secret (salt : Option Bytes) (info : String) {size : Int}
    (short : Text.isWritable size = true) (secret : RootSecret) :
    (∃ text, Key.hexOfLength secret (.text info) size salt = .ok text ∧
      HexKey salt info size secret text) ∨
    ∃ err, Key.hexOfLength secret (.text info) size salt = .error err ∧ err.kind = .keyLength ∧
      ∀ text, ¬HexKey salt info size secret text := by
  have longest : (Key.longest : Int) = 16320 := rfl
  simp only [Key.hexOfLength, Key.ofLength, Key.refusal_of_isWritable short]
  split
  next out =>
    refine .inr ⟨_, rfl, rfl, ?_⟩
    rintro text ⟨positive, bounded, -⟩
    omega
  next fits => exact .inl ⟨_, rfl, by omega, by omega, rfl⟩

theorem uuidKey_of_secret (salt : Option Bytes) (info : String) (secret : RootSecret) :
    UuidKey salt info secret (Key.uuid secret (.text info) salt).text := ⟨_, rfl, rfl⟩

section

variable {env : Environment} {invocation : Invocation} {m : Machine}
  {supplies : RootSecret → Prop} {makes : RootSecret → String → Prop}

/-- A command whose key is made of the secret, where there is one, ends in one of these ways. -/
theorem keyEnd_printing {body : Keeper → Attempt Error String}
    {give : RootSecret → Except Error String}
    (asked : ((body (invocation.keeper env)).run.run (invocation.opened env m)).1 =
      invocation.secured env m >>= give)
    (supplied : ∀ secret, invocation.secured env m = .ok secret → supplies secret)
    (given : ∀ secret, (∃ text, give secret = .ok text ∧ makes secret text) ∨
      ∃ err, give secret = .error err ∧ err.kind = .keyLength ∧ ∀ text, ¬makes secret text) :
    let ended := ((printing (invocation.settings env) body).run (invocation.prepare env m)).1
    KeyEnd (invocation.secured env m) supplies makes ended.exitStatus ended.stdout := by
  have fails := (invocation.keeper env).confinedTo_secret (invocation.opened env m)
  dsimp only
  rw [run_printing (run_make_opened env invocation m), asked]
  cases secured : invocation.secured env m with
  | error err =>
    show KeyEnd (.error err) supplies makes err.kind.exitStatus ""
    have kind := fails err secured
    simp only [List.mem_cons, List.not_mem_nil, or_false] at kind
    rcases kind with kind | kind | kind <;> rw [kind]
    · exact .blank rfl kind
    · exact .unavailable rfl kind
    · exact .unread rfl kind
  | ok secret =>
    have bound : (Except.ok secret >>= give) = give secret := rfl
    rw [bound]
    rcases given secret with ⟨text, gives, made⟩ | ⟨err, gives, kind, nothing⟩ <;> rw [gives]
    · exact .printed rfl (supplied secret secured) made
    · show KeyEnd (.ok secret) supplies makes err.kind.exitStatus ""
      rw [kind]
      exact .refused rfl (supplied secret secured) nothing

end

/-! ## The two commands -/

section

variable {args : List String} {env : Environment} {invocation : Invocation} {m : Machine}

/-- The commands that print a key of a secret, and what each makes of it. -/
theorem keyEnd_execute (read : Invocation.parse? args = some invocation) {command : Command}
    (understood : Command.parse? invocation.command invocation.arguments = some command)
    {body : Keeper → Attempt Error String} {give : RootSecret → Except Error String}
    {makes : RootSecret → String → Prop}
    (prints : execute (invocation.settings env) command =
      printing (invocation.settings env) body)
    (asks : ∀ keeper m, (body keeper).run.exchanges m = keeper.secret.run.exchanges m)
    (gives : ∀ m, ((body (invocation.keeper env)).run.run m).1 =
      ((invocation.keeper env).secret.run.run m).1 >>= give)
    (given : ∀ secret, (∃ text, give secret = .ok text ∧ makes secret text) ∨
      ∃ err, give secret = .error err ∧ err.kind = .keyLength ∧ ∀ text, ¬makes secret text)
    (time : String) :
    KeyEnd (invocation.secured env m) (invocation.Supplies env (exchanges args env m)) makes
      (invoke time args env m).1.exitStatus (invoke time args env m).1.stdout := by
  rw [exitStatus_invoke, stdout_invoke, outcome_eq read understood, prints]
  refine keyEnd_printing (gives _) ?_ given
  intro secret secured
  rw [exchanges_eq read understood, prints, exchanges_printing
    (run_make_opened env invocation m) (events_opened invocation env m), asks]
  exact supplies_of_secret secured

theorem keyEnd_hex (read : Invocation.parse? args = some invocation) {size : Int} {info : String}
    (understood : Command.parse? invocation.command invocation.arguments = some (.hex size info))
    (time : String) : KeyEnd (invocation.secured env m)
      (invocation.Supplies env (exchanges args env m)) (HexKey (invocation.salt env) info size)
      (invoke time args env m).1.exitStatus (invoke time args env m).1.stdout := by
  refine keyEnd_execute read understood rfl ?_ ?_
    (hexKey_of_secret (invocation.salt env) info (isWritable_of_parse? understood)) time
  · exact fun keeper m => keeper.exchanges_hexKey m (.text info) size
  · intro m
    rw [Keeper.run_hexKey, ← salt_settings]
    rfl

theorem keyEnd_uuid (read : Invocation.parse? args = some invocation) {info : String}
    (understood : Command.parse? invocation.command invocation.arguments = some (.uuid info))
    (time : String) : KeyEnd (invocation.secured env m)
      (invocation.Supplies env (exchanges args env m)) (UuidKey (invocation.salt env) info)
      (invoke time args env m).1.exitStatus (invoke time args env m).1.stdout := by
  refine keyEnd_execute read understood rfl ?_ ?_ (fun secret => .inl ⟨_, rfl,
    uuidKey_of_secret (invocation.salt env) info secret⟩) time
  · intro keeper m
    exact (Program.excerpt_attempt_map _ _ _ m).trans (keeper.exchanges_uuid m (.text info))
  · intro m
    rw [Program.run_attempt_map, Keeper.run_uuid, ← salt_settings]
    cases ((invocation.keeper env).secret.run.run m).1 <;> rfl

/-- A command that can make a key of every secret does not refuse one. -/
theorem KeyEnd.exitStatus_ne {secured : Except Error RootSecret} {supplies : RootSecret → Prop}
    {makes : RootSecret → String → Prop} {exitStatus : Nat} {stdout : String}
    (h : KeyEnd secured supplies makes exitStatus stdout)
    (able : ∀ secret, ∃ text, makes secret text) : exitStatus ≠ 6 := by
  cases h with
  | @refused secret given supplied nothing =>
    obtain ⟨text, made⟩ := able secret
    exact absurd made (nothing text)
  | _ => decide

end

/-- What a command line comes to that asks for a key. -/
structure KeyContract (time : String) (args : List String) (env : Environment) (m : Machine)
    (invocation : Invocation) : Prop where
  /-- The options are those that stand in front of the command, in whichever form. -/
  options : ∀ uses name arguments, args = uses.flatMap Use.args ++ name.text :: arguments →
    invocation = ⟨Use.options uses, name, arguments⟩
  /-- The exchanges are what stands behind the calls that are seen of the process. -/
  events : (invoke time args env m).1.events = (exchanges args env m).map Exchange.event
  hex : ∀ size info,
    Command.parse? invocation.command invocation.arguments = some (.hex size info) →
      KeyEnd (invocation.secured env m) (invocation.Supplies env (exchanges args env m))
        (HexKey (invocation.salt env) info size)
        (invoke time args env m).1.exitStatus (invoke time args env m).1.stdout
  uuid : ∀ info,
    Command.parse? invocation.command invocation.arguments = some (.uuid info) →
      KeyEnd (invocation.secured env m) (invocation.Supplies env (exchanges args env m))
        (UuidKey (invocation.salt env) info)
        (invoke time args env m).1.exitStatus (invoke time args env m).1.stdout ∧
      (invoke time args env m).1.exitStatus ≠ 6

/-- Every command line that can be read keeps to the contract, whatever the device does. -/
theorem key_commands (time : String) (args : List String) (env : Environment) (m : Machine)
    {invocation : Invocation} (read : Invocation.parse? args = some invocation) :
    KeyContract time args env m invocation where
  options uses name arguments written := by
    rw [written, parse?_args] at read
    exact (Option.some.inj read).symm
  events := events_invoke time args env m
  hex size info understood := keyEnd_hex read understood time
  uuid info understood := by
    have ended : KeyEnd (invocation.secured env m) _ _ (invoke time args env m).1.exitStatus _ :=
      keyEnd_uuid read understood time
    exact ⟨ended, ended.exitStatus_ne fun secret => ⟨_, uuidKey_of_secret _ info secret⟩⟩

/-- Four bytes for an override and a salt that are both empty, and both given: the salt of the
environment does not count. -/
theorem key_commands_empty :
    Invocation.parse? ["--salt=", "hex", "4", "disk"] =
        some ⟨⟨false, some "", false⟩, .hex, ["4", "disk"]⟩ ∧
      Command.parse? .hex ["4", "disk"] = some (.hex 4 "disk") ∧
      KeyContract "" ["--salt=", "hex", "4", "disk"] ⟨some "", none, some "pepper"⟩
        (.start .blank []) ⟨⟨false, some "", false⟩, .hex, ["4", "disk"]⟩ ∧
      (invoke "" ["--salt=", "hex", "4", "disk"] ⟨some "", none, some "pepper"⟩
        (.start .blank [])).1.stdout = "79fb9ca1\n" := by
  have read : Invocation.parse? ["--salt=", "hex", "4", "disk"] =
      some ⟨⟨false, some "", false⟩, .hex, ["4", "disk"]⟩ := by decide +kernel
  exact ⟨read, by decide +kernel, key_commands _ _ _ _ read, by decide +kernel⟩

end CommandLine

end DeviceKeys
