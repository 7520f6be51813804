import RequestKeys.Text.Hex
import RequestKeys.Text.Utf8

/-!
# Percent encoding

Octets written as `%` and two hexadecimal digits, in targets and in forms, and the texts read back
from them.  Reading never fails: a percent sign without two digits after it stands for itself.
-/

namespace RequestKeys.Percent

/-- An octet as a percent sign and two capital hexadecimal digits. -/
def escape (b : UInt8) : List Char :=
  ['%', upperHexDigit (b.toNat / 16), upperHexDigit (b.toNat % 16)]

/-- The value of two hexadecimal digits. -/
def pairValue? (high low : Char) : Option UInt8 :=
  match hexValue? high, hexValue? low with
  | some h, some l => some (h * 16 + l).toUInt8
  | _, _ => none

/-- The octets that a text stands for. -/
def octets : List Char → List UInt8
  | [] => []
  | '%' :: high :: low :: rest => match pairValue? high low with
    | some b => b :: octets rest
    | none => '%'.toUInt8 :: octets (high :: low :: rest)
  | c :: rest => Utf8.encodeChar c ++ octets rest

/-- The text that is meant by a percent-encoded one. -/
def decode (text : List Char) : List Char := Utf8.decode (octets text)

/-- The characters that stand for themselves in an encoded path. -/
def isPathSafe (c : Char) : Bool :=
  c.isAlphanum || c == '-' || c == '.' || c == '_' || c == '~' || c == '/'

/-- A path with every octet escaped but those of safe characters. -/
def encodePath (text : List Char) : List Char :=
  text.flatMap fun c => if isPathSafe c then [c] else (Utf8.encodeChar c).flatMap escape

/-! ## Forms -/

/-- The text that is meant by a name or a value of a form, where a plus sign is a space. -/
def decodeForm (text : List Char) : List Char :=
  decode (text.map fun c => if c = '+' then ' ' else c)

/-- The characters that stand for themselves in a form. -/
def isFormSafe (c : Char) : Bool := c.isAlphanum || c == '*' || c == '-' || c == '.' || c == '_'

/-- A name or a value as it is written in a form. -/
def encodeForm (text : List Char) : List Char :=
  text.flatMap fun c =>
    if c = ' ' then ['+']
    else if isFormSafe c then [c]
    else (Utf8.encodeChar c).flatMap escape

end RequestKeys.Percent
