import DeviceKeys.Text.Numeral
import DeviceKeys.Text.Printable

/-!
# Quoted text

How a path or a name is shown inside an error message: between quotes, with everything that would
not show, or would end the quotation early, written as an escape. Single quotes are the rule;
double quotes are taken when the text holds a single quote and no double one, so that most texts
need no escape for a quote at all.
-/

set_option autoImplicit false

namespace DeviceKeys.Text

def quoteFor (cs : List Char) : Char :=
  if cs.contains '\'' && !cs.contains '"' then '"' else '\''

/-- `digits` in lowercase hexadecimal, filled with zeros to `width` places. -/
def lowerHex (width n : Nat) : List Char :=
  let digits := Nat.toDigits 16 n
  List.replicate (width - digits.length) '0' ++ digits

/-- The escape of a code point that does not show, the shortest of three widths. -/
def codeEscape (n : Nat) : List Char :=
  if n < 0x100 then '\\' :: 'x' :: lowerHex 2 n
  else if n < 0x10000 then '\\' :: 'u' :: lowerHex 4 n
  else '\\' :: 'U' :: lowerHex 8 n

def quotedChar (quote c : Char) : List Char :=
  if c == quote || c == '\\' then ['\\', c]
  else if c == '\t' then ['\\', 't']
  else if c == '\n' then ['\\', 'n']
  else if c == '\r' then ['\\', 'r']
  else if isPrintable c then [c]
  else codeEscape c.toNat

def quoted (text : String) : String :=
  let cs := text.toList
  let quote := quoteFor cs
  String.ofList (quote :: (cs.flatMap (quotedChar quote) ++ [quote]))

end DeviceKeys.Text
