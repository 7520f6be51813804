import RequestKeys.Text.Hex
import RequestKeys.Text.Split

/-!
# Internet address literals

The texts that spell an address of version 4, four decimal octets between points, or of version 6,
eight groups of hexadecimal digits between colons, of which a stretch of zeros may be left out and
the last two may be spelled as an address of version 4.
-/

namespace RequestKeys.Path

/-- A number up to 255 without a leading zero. -/
def isDecimalOctet (text : List Char) : Bool :=
  text.all isDigit && 1 ≤ text.length && text.length ≤ 3 &&
    (text.length == 1 || text.head? != some '0') && digitsValue 10 text ≤ 255

/-- An address of version 4. -/
def isAddressV4 (text : List Char) : Bool :=
  let octets := Split.pieces '.' text
  octets.length == 4 && octets.all isDecimalOctet

/-- Up to four hexadecimal digits. -/
def isHexGroup (text : List Char) : Bool :=
  text.all isHexDigit && 1 ≤ text.length && text.length ≤ 4

/-- How many groups the text spells: none if it is empty, else groups between colons.  Where `v4` is
set the last may be an address of version 4, which counts as two. -/
def groupCount? (v4 : Bool) (text : List Char) : Option Nat :=
  if text.isEmpty then some 0
  else
    let groups := Split.pieces ':' text
    if groups.all isHexGroup then some groups.length
    else if v4 && groups.dropLast.all isHexGroup && groups.getLast?.any isAddressV4 then
      some (groups.length + 1)
    else none

/-- An address of version 6.  Two colons stand for at least one group of zeros. -/
def isAddressV6 (text : List Char) : Bool :=
  match Split.cutAt [':', ':'] text with
  | none => groupCount? true text == some 8
  | some (left, right) =>
    match groupCount? false left, groupCount? true right with
    | some a, some b => a + b ≤ 7
    | _, _ => false

/-- An address of either version. -/
def isAddress (text : List Char) : Bool := isAddressV4 text || isAddressV6 text

end RequestKeys.Path
