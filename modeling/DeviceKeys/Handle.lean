import DeviceKeys.Program

/-!
# Handles

A handle is the mailbox file once it is open. It is closed at most once: closing a closed handle
asks nothing of the system, and a close that the system refuses leaves the handle open, so that it
can be closed again.

`use` and `locked` are the two brackets in which everything else happens. Both undo what they did
whatever the body came to, and both let a failure to undo it stand as the result, even over a
success and even over another failure.
-/

set_option autoImplicit false

namespace DeviceKeys

structure Handle where
  path : String
  isOpen : Bool
  deriving DecidableEq, Repr

namespace Handle

variable {α ε : Type}

/-- A call whose failure names no path. -/
def call (answer : Program (Except Nat α)) : Attempt CallError α := .mk do
  return (← answer).mapError (.system · none)

def openAt (path : String) : Attempt CallError Handle := .mk do
  match ← Program.perform (.openAt path) with
  | .ok () => return .ok ⟨path, true⟩
  | .error errno => return .error (.system errno (some path))

/-- Closes a handle that is open; what is left of it is open only if the system refused. -/
def close (handle : Handle) : Program (Except CallError Unit × Handle) :=
  if handle.isOpen then do
    match ← (call (Program.perform .close)).run with
    | .ok () => return (.ok (), { handle with isOpen := false })
    | .error err => return (.error err, handle)
  else return (.ok (), handle)

def lock : Attempt CallError Unit := call (Program.perform .lock)

def unlock : Attempt CallError Unit := call (Program.perform .unlock)

/-- Sends a request and gives the value of the answer, if the firmware carried it out. -/
def exchange (tag : Nat) (value : Option Block) : Attempt CallError Block := do
  let answer ← call (Program.perform (.transfer (.request (.ofNat tag) value)))
  if answer.code = Mailbox.success then return answer.value
  else throw (.rejected tag answer.code.toNat)

/-- What is sent for a request that comes from outside. A value of another size and a tag that is no
word are not sent; of the two the value is looked at first. -/
def checked (tag : Int) (value : Option Bytes) : Except Error (Nat × Option Block) := do
  let value ← match value with
    | none => pure none
    | some bytes =>
      match Block.ofBytes? bytes with
      | some block => pure (some block)
      | none => throw (.valueSize bytes.length)
  return (← Mailbox.checkedTag tag, value)

theorem checkedTag_of_checked {tag : Int} {value : Option Bytes} {sent : Nat × Option Block}
    (fine : checked tag value = .ok sent) : Mailbox.checkedTag tag = .ok sent.1 := by
  unfold checked at fine
  cases named : Mailbox.checkedTag tag with
  | error err =>
    rw [named] at fine
    cases value with
    | none => cases fine
    | some bytes => cases size : Block.ofBytes? bytes <;> simp only [size] at fine <;> cases fine
  | ok n =>
    rw [named] at fine
    cases value with
    | none =>
      cases fine
      rfl
    | some bytes =>
      cases size : Block.ofBytes? bytes <;> simp only [size] at fine <;> cases fine
      rfl

/-- A request that comes from outside. -/
def send (tag : Int) (value : Option Bytes) : Attempt Error Block := do
  let (tag, value) ← Program.ofExcept (checked tag value)
  (exchange tag value).adapt .call

def read (region : Region) : Attempt CallError Block :=
  exchange (Mailbox.tagForReading region) none

def write (region : Region) (value : Block) : Attempt CallError Block :=
  exchange (Mailbox.tagForWriting region) (some value)

/-- Runs a body under the exclusive lock. A lock that is refused runs nothing and undoes nothing. -/
def locked (refused : CallError → ε) (body : Attempt ε α) : Attempt ε α := do
  lock.adapt refused
  Program.ensuring body (unlock.adapt refused)

/-- Runs a body with an open handle, which is closed at the end. -/
def closing (refused : CallError → ε) (handle : Handle) (body : Attempt ε α) : Attempt ε α :=
  Program.ensuring body (.mk do return (← handle.close).1.mapError refused)

/-- Opens the file, runs a body and closes the file. -/
def use (path : String) (body : Attempt CallError α) : Attempt CallError α := do
  let handle ← openAt path
  handle.closing id body

/-- One visit to the device to read a region. -/
def visit (region : Region) (path : String) : Attempt CallError Block :=
  use path (read region)

/-! ## What the surroundings can be asked at any time -/

/-- Whether the mailbox file is there. -/
def mailboxPresent (path : String) : Program Bool := Program.perform (.fileExists path)

/-- Whether the firmware lets the private-key region be read. -/
def offersPrivateKey (path : String) : Program Bool := do
  match ← (visit .privateKey path).run with
  | .ok _ => return true
  | .error err =>
    Program.log .debug s!"Private key OTP not supported: {err.message}"
    return false

end Handle

end DeviceKeys
