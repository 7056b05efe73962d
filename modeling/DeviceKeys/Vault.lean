import DeviceKeys.Answer
import DeviceKeys.Key

/-!
# Vaults

A vault keeps secrets under names and lets them be used one step at a time. A secret comes into the
vault once, with its thirty-two bytes, and once it is erased it is zeros for good; leaving a block
in which it was in use erases it, whether or not the block ended in an error.

Only `reveal`, the blocks and the keys look at the bytes of a secret, and a comparison looks at two
of them. Except for `isBlank`, all the other steps answer the same for every secret.
-/

set_option autoImplicit false

namespace DeviceKeys

/-- What can be done with a secret that is there. -/
inductive SecretStep where
  /-- Asks for the text of the secret, in whichever way and with whatever format. -/
  | text
  | isBlank
  | erase
  | reveal
  | hash
  /-- Asks for a copy, of any kind. -/
  | copy
  | equals (other : String)
  | differs (other : String)
  /-- Compares with plain bytes, which a secret never equals. -/
  | equalsBytes (bytes : Bytes)
  | key (label : Label) (length : Int) (salt : Option Bytes)
  | uuid (label : Label) (salt : Option Bytes)
  /-- Uses the secret in a block and answers with what was seen there. -/
  | useInBlock
  /-- Uses the secret in a block that ends in an error, which goes on to the caller. -/
  | failInBlock
  deriving DecidableEq, Repr

inductive VaultStep where
  /-- Makes a new secret of some bytes and keeps it under a name. -/
  | insert (name : String) (bytes : Bytes)
  | use (name : String) (step : SecretStep)
  deriving DecidableEq, Repr

/-- The secrets by name, the latest first. -/
abbrev Vault := List (String × RootSecret)

namespace Vault

def secret? (vault : Vault) (name : String) : Option RootSecret := List.lookup name vault

/-- Puts a new secret into the vault; one of another size stays outside. -/
def insert (vault : Vault) (name : String) (bytes : Bytes) : Except Error Answer × Vault :=
  match RootSecret.ofBytes bytes with
  | .ok secret => (.ok .nothing, (name, secret) :: vault)
  | .error err => (.error err, vault)

def erase (vault : Vault) (name : String) : Vault :=
  vault.map fun (other, secret) => (other, if other = name then RootSecret.erased else secret)

/-- What a step leaves of the vault: an erased secret, or everything as it was. -/
def after (vault : Vault) (name : String) : SecretStep → Vault
  | .erase | .useInBlock | .failInBlock => vault.erase name
  | _ => vault

/-- What a step on a secret answers. -/
def answer (vault : Vault) (secret : RootSecret) : SecretStep → Except Error Answer
  | .text => .ok (.text RootSecret.redacted)
  | .isBlank => .ok (.flag secret.isBlank)
  | .erase => .ok .nothing
  | .reveal | .useInBlock => .ok (.bytes secret.bytes)
  | .hash => .error .unhashable
  | .copy => .error .unserializable
  | .equals other => (compare other).map fun same => .flag same
  | .differs other => (compare other).map fun same => .flag !same
  | .equalsBytes _ => .ok (.flag false)
  | .key label length salt => (Key.ofLength secret label length salt).map .bytes
  | .uuid label salt => .ok (.text (Key.uuid secret label salt).text)
  | .failInBlock => .ok (.text "propagated")
where
  compare (other : String) : Except Error Bool :=
    match vault.secret? other with
    | some otherSecret => .ok (secret == otherSecret)
    | none => .error (.inapplicable other)

/-- Does one step on the secret of the given name. -/
def use (vault : Vault) (name : String) (step : SecretStep) : Except Error Answer × Vault :=
  match vault.secret? name with
  | some secret => (vault.answer secret step, vault.after name step)
  | none => (.error (.inapplicable name), vault)

def advance (vault : Vault) : VaultStep → Except Error Answer × Vault
  | .insert name bytes => vault.insert name bytes
  | .use name step => vault.use name step

/-- Does steps in order, and gives the answer of each. -/
def play (vault : Vault) : List VaultStep → List (Except Error Answer) × Vault
  | [] => ([], vault)
  | step :: rest =>
    let (answer, vault) := vault.advance step
    let (answers, vault) := vault.play rest
    (answer :: answers, vault)

end Vault

end DeviceKeys
