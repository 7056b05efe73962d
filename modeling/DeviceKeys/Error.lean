import DeviceKeys.Field
import DeviceKeys.Region
import DeviceKeys.Text.Numeral
import DeviceKeys.Text.Quoted

/-!
# What can go wrong, and in which words

An error is kept as its cause: which region, which path, which call failed and with what number.
The wording is one function on top (`Error.message`), and so is the family an error belongs to
(`Error.kind`), which decides the exit status of the command line. Nothing in the library takes a
decision by looking at a message.
-/

set_option autoImplicit false

namespace DeviceKeys

/-! ## Failed calls -/

/-- How a call of the operating system can fail. -/
inductive CallError where
  /-- The system refused the call, and names the path if a path was opened. -/
  | system (errno : Nat) (path : Option String)
  /-- The call went through, and the firmware answered a request with another code than success. -/
  | rejected (tag code : Int)
  deriving DecidableEq, Repr

namespace CallError

/-- The number that says that a file does not exist. -/
def noSuchFile : Nat := 2

/-- Whether a call failed because there is no such file, whichever call it was. -/
def isMissingFile : CallError → Bool
  | system errno _ => errno == noSuchFile
  | rejected _ _ => false

def describe : Nat → String
  | 1 => "Operation not permitted"
  | 2 => "No such file or directory"
  | 5 => "Input/output error"
  | 11 => "Resource temporarily unavailable"
  | 13 => "Permission denied"
  | 16 => "Device or resource busy"
  | 19 => "No such device"
  | 22 => "Invalid argument"
  | 25 => "Inappropriate ioctl for device"
  | 110 => "Connection timed out"
  | errno => s!"Unknown error {errno}"

def message : CallError → String
  | system errno none => s!"[Errno {errno}] {describe errno}"
  | system errno (some path) => s!"[Errno {errno}] {describe errno}: {Text.quoted path}"
  | rejected tag code =>
    s!"Request 0x{Text.hex8 tag} to VCIO property interface unsuccessful (0x{Text.hex8 code})"

end CallError

/-! ## Causes -/

/-- Why a secret or a state could not be read. -/
inductive ReadCause where
  | call (region : Region) (err : CallError)
  /-- The read went through and gave nothing but zeros. -/
  | empty (region : String)
  deriving DecidableEq, Repr

/-- Why a region could not be programmed, in the order in which programming gets there. -/
inductive ProgramCause where
  | inspecting (region : String) (cause : ReadCause)
  | opening (path : String) (err : CallError)
  | locking (path : String) (err : CallError)
  | reading (region : Region) (err : CallError)
  | programming (region : Region) (err : CallError)
  /-- The rows do not read back as what was written. -/
  | verifying (region : Region)
  deriving DecidableEq, Repr

/-- Why a region turned out not to be offered while it was being programmed. -/
inductive MissingCause where
  | opening (path : String) (err : CallError)
  | refused (region : Region)
  deriving DecidableEq, Repr

def ReadCause.message : ReadCause → String
  | call region err => s!"Unable to read the {region.name} OTP region: {err.message}"
  | empty region => s!"The {region} OTP region returned an empty secret"

def ProgramCause.message : ProgramCause → String
  | inspecting region cause =>
    s!"Unable to probe the {region} OTP region before programming: {cause.message}"
  | opening path err => s!"Unable to open {path}: {err.message}"
  | locking path err => s!"Unable to lock {path} for programming: {err.message}"
  | reading region err =>
    s!"Unable to read the {region.name} OTP region before writing: {err.message}"
  | programming region err => s!"Programming the {region.name} OTP region failed: {err.message}"
  | verifying region =>
    s!"Verification of the {region.name} OTP region failed, the rows do not hold the written value"

def MissingCause.message : MissingCause → String
  | opening path err => s!"Unable to open {path}: {err.message}"
  | refused region => s!"The firmware does not support the {region.name} OTP region"

/-- Why a number is no word of thirty-two bits. -/
inductive WordProblem where
  | negative
  /-- Too large for one word, but not for two. -/
  | aboveWord
  | aboveDoubleWord
  deriving DecidableEq, Repr

def WordProblem.message : WordProblem → String
  | negative => "can't convert negative value to unsigned int"
  | aboveWord => "unsigned int is greater than maximum"
  | aboveDoubleWord => "Python int too large to convert to C unsigned long"

/-! ## Kinds -/

/-- The family of an error. `medium` and `keeper` are families of families, named for the part of
the library that can be at fault, and `library` is the family of all that is about devices and
keys. -/
inductive ErrorKind where
  | library
  | medium
  | keeper
  | mediumMissing
  | alreadyProgrammed
  | programmingFailed
  | readingFailed
  | regionClaimed
  | regionUnavailable
  | regionBlank
  | keyLength
  | invalidValue
  | invalidType
  | invalidState
  | invalidBuffer
  | invalidFields
  | outOfRange
  | operatingSystem
  | rejectedRequest
  deriving DecidableEq, Repr

namespace ErrorKind

/-- A kind together with the families it belongs to. -/
def families : ErrorKind → List ErrorKind
  | medium => [medium, library]
  | keeper => [keeper, library]
  | mediumMissing => [mediumMissing, medium, library]
  | alreadyProgrammed => [alreadyProgrammed, medium, library]
  | regionClaimed => [regionClaimed, medium, library]
  | programmingFailed => [programmingFailed, medium, keeper, library]
  | readingFailed => [readingFailed, medium, keeper, library]
  | regionUnavailable => [regionUnavailable, keeper, library]
  | regionBlank => [regionBlank, keeper, library]
  | keyLength => [keyLength, library, invalidValue]
  | rejectedRequest => [rejectedRequest, operatingSystem]
  | kind => [kind]

/-- The exit status of each family that has one of its own; of several the first counts. -/
def exitStatuses : List (ErrorKind × Nat) :=
  [(regionUnavailable, 2), (programmingFailed, 3), (regionBlank, 4), (readingFailed, 5),
    (keyLength, 6)]

def exitStatus (kind : ErrorKind) : Nat :=
  ((exitStatuses.find? fun (family, _) => kind.families.contains family).map (·.2)).getD 1

/-- The message of an error of this kind about `subject`: for the two kinds that are about a
region, advice to the operator; for every other kind the subject itself. -/
def message (kind : ErrorKind) (subject : String) : String :=
  match kind with
  | regionUnavailable =>
    s!"The {subject} OTP region is not supported on this device. "
      ++ "Retry with --customer-otp or update the firmware (rpi-eeprom-update / rpi-update)."
  | regionBlank =>
    s!"The device-specific secret in the {subject} OTP region has not been initialized. "
      ++ "Run `rpi-derive-key init` first."
  | _ => subject

end ErrorKind

/-! ## Errors -/

inductive Error where
  /-- A secret was to be made of a number of bytes that is not thirty-two. -/
  | secretSize (length : Nat)
  /-- A request was to carry a value of a number of bytes that is not thirty-two. -/
  | valueSize (length : Nat)
  /-- A request was to carry a tag that is no word. -/
  | tagRange (problem : WordProblem)
  /-- A text names no member of the enumeration. -/
  | unknownName (enumeration text : String)
  | unhashable
  | unserializable
  /-- A call was to be made on a file that is closed. -/
  | closedHandle
  /-- A number that was to be written into a message has more digits than are written. -/
  | tooManyDigits
  /-- The override was asked for, and none is configured. -/
  | noOverride
  /-- A buffer does not hold eight words of thirty-two bits where the value stands. -/
  | malformedBuffer
  /-- A name stands for nothing, or for nothing that the step can be done to. -/
  | inapplicable (name : String)
  | fields (errors : List FieldError)
  | call (err : CallError)
  | keyLength (length : Int) (limit : Nat)
  | regionClaimed (region : Region)
  | mediumMissing (cause : MissingCause)
  | alreadyProgrammed (region : Region)
  | readingFailed (cause : ReadCause)
  | programmingFailed (cause : ProgramCause)
  | regionUnavailable (region : String)
  | regionBlank (region : String)
  deriving DecidableEq, Repr

namespace Error

def kind : Error → ErrorKind
  | secretSize _ | valueSize _ | unknownName _ _ | tooManyDigits => .invalidValue
  | tagRange _ => .outOfRange
  | unhashable | unserializable | closedHandle => .invalidType
  | noOverride | inapplicable _ => .invalidState
  | malformedBuffer => .invalidBuffer
  | fields _ => .invalidFields
  | call (.system _ _) => .operatingSystem
  | call (.rejected _ _) => .rejectedRequest
  | keyLength _ _ => .keyLength
  | regionClaimed _ => .regionClaimed
  | mediumMissing _ => .mediumMissing
  | alreadyProgrammed _ => .alreadyProgrammed
  | readingFailed _ => .readingFailed
  | programmingFailed _ => .programmingFailed
  | regionUnavailable _ => .regionUnavailable
  | regionBlank _ => .regionBlank

/-- The words of an error; a malformed buffer and refused fields have none of their own. -/
def message : Error → String
  | secretSize length => s!"Device secret must be exactly 32 bytes, got {length}"
  | valueSize length => s!"OTP value must be exactly 32 bytes, got {length}"
  | tagRange problem => problem.message
  | unknownName enumeration text => s!"{Text.quoted text} is not a valid {enumeration}"
  | unhashable => "unhashable type: 'DeviceSecret'"
  | unserializable => "DeviceSecret cannot be serialized"
  | closedHandle => "argument must be an int, or have a fileno() method."
  | tooManyDigits =>
    s!"Exceeds the limit ({Text.maxDigits} digits) for integer string conversion; "
      ++ "use sys.set_int_max_str_digits() to increase the limit"
  | noOverride => "No fake secret configured"
  | malformedBuffer | fields _ => ""
  | inapplicable name => s!"{Text.quoted name} stands for nothing that this can be done to"
  | call err => err.message
  | keyLength length limit =>
    s!"Requested key length {length} is out of range (0 to {limit} bytes)"
  | regionClaimed region =>
    s!"The {region.name} OTP region is already in use by another backend in this process"
  | mediumMissing cause => cause.message
  | alreadyProgrammed region =>
    s!"The {region.name} OTP region has already been programmed"
  | readingFailed cause => cause.message
  | programmingFailed cause => cause.message
  | regionUnavailable region => ErrorKind.regionUnavailable.message region
  | regionBlank region => ErrorKind.regionBlank.message region

def exitStatus (err : Error) : Nat := err.kind.exitStatus

end Error

end DeviceKeys
