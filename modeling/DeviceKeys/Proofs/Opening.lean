import DeviceKeys.CommandLine.Execution
import DeviceKeys.Proofs.Questions

/-!
# The keeper of a command line

Every command works with one keeper, which the process makes of its environment and its options and
closes at the end. A process starts without claims, so that the keeper can always be made, and
closing it cannot fail: what a command comes to is what it does with its keeper. Making one touches
neither the device nor the draws.
-/

set_option autoImplicit false

namespace DeviceKeys

/-! ## Settings -/

/-- The settings that a command line works with. -/
def CommandLine.Invocation.settings (invocation : Invocation) (env : Environment) : Settings :=
  .ofEnvironment env (if invocation.options.customer then some true else none)
    invocation.options.salt

/-- Reading the environment does nothing but log. -/
theorem Settings.run_load (env : Environment) (customerRegion : Option Bool) (salt : Option String)
    (m : Machine) : ∃ log, (load env customerRegion salt).run m =
      (ofEnvironment env customerRegion salt, { m with log }) := by
  unfold load
  split
  · exact ⟨_, rfl⟩
  · exact ⟨_, rfl⟩

/-! ## Claims -/

namespace Claims

variable {claims : Claims} {region other : Region}

theorem claim_of_free (free : claims.isClaimed region = false) : claims.claim region =
    (some claims.granted, ⟨claims.granted + 1, (claims.granted, region) :: claims.held⟩) := by
  rw [claim, free]
  rfl

/-- A claim that was granted holds its own region and no other. -/
theorem isClaimed_claim (free : claims.isClaimed region = false) (apart : other ≠ region) :
    (claims.claim region).2.isClaimed other = claims.isClaimed other := by
  rw [claim_of_free free]
  simp [isClaimed, apart.symm]

end Claims

/-! ## Making a keeper -/

/-- A region that is free can be claimed. -/
theorem Medium.run_claim {region : Region} {path : String} {m : Machine}
    (free : m.claims.isClaimed region = false) : (claim region path).run.run m =
      (.ok (.otp region path m.claims.granted),
        { m with claims := (m.claims.claim region).2 }) := by
  have granted := Claims.claim_of_free free
  rw [claim, Program.run_attempt_bind, Program.run_lift, Program.run_perform, Machine.answer]
  simp only [granted]
  rfl

/-- The medium that settings lead to, given the number of the claim. -/
def Settings.medium (settings : Settings) (id : ClaimId) : Medium :=
  match settings.override with
  | some text => .override (Bytes.ofText text)
  | none => .otp settings.region settings.path id

/-- The claims of a process that has made a keeper. -/
def Settings.claims (settings : Settings) (claims : Claims) : Claims :=
  if settings.hasOverride then claims else (claims.claim settings.region).2

namespace Keeper

variable {settings : Settings} {m : Machine}

/-- A keeper of an override can be made whatever is claimed. -/
theorem run_make_override {text : String} (chosen : settings.override = some text) (m : Machine) :
    ∃ log, (make settings none).run.run m =
      (.ok ⟨settings, .override (Bytes.ofText text)⟩, { m with log }) := by
  simp only [make, Medium.ofSettings, chosen]
  exact ⟨_, rfl⟩

/-- Where its region is free a keeper can be made. -/
theorem run_make (free : m.claims.isClaimed settings.region = false) :
    ∃ log, (make settings none).run.run m =
      (.ok ⟨settings, settings.medium m.claims.granted⟩,
        { m with claims := settings.claims m.claims, log }) := by
  cases override : settings.override with
  | some text =>
    obtain ⟨log, made⟩ := run_make_override override m
    refine ⟨log, made.trans ?_⟩
    simp [Settings.medium, Settings.claims, Settings.hasOverride, override]
  | none =>
    simp only [make, Medium.ofSettings, override, Settings.medium, Settings.claims,
      Settings.hasOverride, Option.isSome_none, Program.run_attempt_bind, Medium.run_claim free]
    exact ⟨_, rfl⟩

/-- Closing a keeper never fails. -/
theorem run_close (keeper : Keeper) (m : Machine) :
    (liftM keeper.close : Attempt Error Unit).run.run m = (.ok (), (keeper.close.run m).2) :=
  Program.run_lift _ _

end Keeper

/-! ## Commands -/

namespace CommandLine

variable {α : Type}

/-- What a command comes to is what it does with its keeper. -/
theorem run_withKeeper {settings : Settings} {body : Keeper → Attempt Error α} {m m' : Machine}
    {keeper : Keeper} (made : (Keeper.make settings none).run.run m = (.ok keeper, m')) :
    ((withKeeper settings body).run.run m).1 = ((body keeper).run.run m').1 := by
  rw [withKeeper, Program.run_attempt_bind, made]
  show ((Program.ensuring (body keeper) keeper.close).run.run m').1 = _
  rw [Program.run_ensuring, Keeper.run_close]
  rfl

/-- The machine on which a command line makes its keeper: that of a new process, once the
environment is read. -/
def Invocation.prepare (invocation : Invocation) (env : Environment) (m : Machine) : Machine :=
  ((Settings.load env (if invocation.options.customer then some true else none)
    invocation.options.salt).run { m.unrecorded with claims := .none }).2

/-- What a command line ends with, as a process of its own. -/
def outcome (args : List String) (env : Environment) (m : Machine) : Outcome :=
  ((run args env).run { m.unrecorded with claims := .none }).1

theorem exitStatus_invoke (time : String) (args : List String) (env : Environment) (m : Machine) :
    (invoke time args env m).1.exitStatus = (outcome args env m).exitStatus := rfl

theorem stdout_invoke (time : String) (args : List String) (env : Environment) (m : Machine) :
    (invoke time args env m).1.stdout = (outcome args env m).stdout := rfl

section

variable {args : List String} {env : Environment} {invocation : Invocation} {command : Command}

/-- A command line that can be read executes its command under its settings. -/
theorem outcome_eq (read : Invocation.parse? args = some invocation)
    (understood : Command.parse? invocation.command invocation.arguments = some command)
    (m : Machine) : outcome args env m =
      ((execute (invocation.settings env) command).run (invocation.prepare env m)).1 := by
  obtain ⟨log, loaded⟩ := Settings.run_load env
    (if invocation.options.customer then some true else none) invocation.options.salt
    { m.unrecorded with claims := .none }
  simp only [outcome, run, read, understood, Program.run_bind, Invocation.prepare, loaded]
  rfl

theorem device_prepare (m : Machine) : (invocation.prepare env m).device = m.device := by
  obtain ⟨log, loaded⟩ := Settings.run_load env
    (if invocation.options.customer then some true else none) invocation.options.salt
    { m.unrecorded with claims := .none }
  rw [Invocation.prepare, loaded]
  rfl

theorem claims_prepare (m : Machine) : (invocation.prepare env m).claims = .none := by
  obtain ⟨log, loaded⟩ := Settings.run_load env
    (if invocation.options.customer then some true else none) invocation.options.salt
    { m.unrecorded with claims := .none }
  rw [Invocation.prepare, loaded]

/-- The keeper that a command line works with. -/
def Invocation.keeper (invocation : Invocation) (env : Environment) : Keeper :=
  ⟨invocation.settings env, (invocation.settings env).medium 0⟩

/-- The machine on which a command line begins to work with its keeper. -/
def Invocation.opened (invocation : Invocation) (env : Environment) (m : Machine) : Machine :=
  ((Keeper.make (invocation.settings env) none).run.run (invocation.prepare env m)).2

/-- A process that starts can always make its keeper. -/
theorem exists_make (env : Environment) (invocation : Invocation) (m : Machine) :
    ∃ log, (Keeper.make (invocation.settings env) none).run.run (invocation.prepare env m) =
      (.ok (invocation.keeper env), { invocation.prepare env m with
        claims := (invocation.settings env).claims .none, log }) := by
  have free : (invocation.prepare env m).claims.isClaimed (invocation.settings env).region =
      false := by
    rw [claims_prepare]
    rfl
  obtain ⟨log, made⟩ := Keeper.run_make free
  rw [claims_prepare] at made
  exact ⟨log, made⟩

theorem run_make_opened (env : Environment) (invocation : Invocation) (m : Machine) :
    (Keeper.make (invocation.settings env) none).run.run (invocation.prepare env m) =
      (.ok (invocation.keeper env), invocation.opened env m) := by
  obtain ⟨log, made⟩ := exists_make env invocation m
  rw [Invocation.opened, made]

theorem device_opened (invocation : Invocation) (env : Environment) (m : Machine) :
    (invocation.opened env m).device = m.device := by
  obtain ⟨log, made⟩ := exists_make env invocation m
  rw [Invocation.opened, made]
  exact device_prepare m

theorem claims_opened (m : Machine) :
    (invocation.opened env m).claims = (invocation.settings env).claims .none := by
  obtain ⟨log, made⟩ := exists_make env invocation m
  rw [Invocation.opened, made]

end

end CommandLine

end DeviceKeys
