import RequestKeys.Path.Address

/-!
# Kinds of path segments

What a segment of a path can be recognised as, the tests for it, and their order.
-/

namespace RequestKeys.Path

/-- What an identifier in a path is. -/
inductive Kind where
  | hash
  | number
  | uuid
  | ip
  | image
  | font
  deriving DecidableEq

/-- The name of a kind. -/
def Kind.name : Kind → String
  | hash => "hash"
  | number => "number"
  | uuid => "uuid"
  | ip => "ip"
  | image => "image"
  | font => "font"

/-- What stands in a path for any segment of the kind. -/
def Kind.placeholder : Kind → List Char
  | hash => [':', 'h', 'a', 's', 'h']
  | number => ['0']
  | uuid => [':', 'u', 'u', 'i', 'd']
  | ip => [':', 'i', 'p']
  | image => [':', 'i', 'm', 'a', 'g', 'e']
  | font => [':', 'f', 'o', 'n', 't']

/-! ## Tests -/

/-- A digest in small hexadecimal digits, of 128, 160 or 256 bits. -/
def isHash (segment : List Char) : Bool :=
  (segment.length == 32 || segment.length == 40 || segment.length == 64) &&
    segment.all isLowerHexDigit

/-- Decimal digits only. -/
def isNumeric (segment : List Char) : Bool := !segment.isEmpty && segment.all isDigit

/-- Hexadecimal digits only, of either case; short words such as `cafe` are among them. -/
def isHexadecimal (segment : List Char) : Bool := !segment.isEmpty && segment.all isHexDigit

/-- Groups of 8, 4, 4, 4 and 12 small hexadecimal digits between hyphens. -/
def isUuid (segment : List Char) : Bool :=
  let groups := Split.pieces '-' segment
  groups.map List.length == [8, 4, 4, 4, 12] && groups.all (·.all isLowerHexDigit)

/-- The small letter of an ASCII letter.  The long s and the kelvin sign are the two other
characters that equal an ASCII letter up to case. -/
def foldLetter (c : Char) : Char :=
  if 'A' ≤ c ∧ c ≤ 'Z' then Char.ofNat (c.toNat + 32)
  else if c = '\u017F' then 's'
  else if c = '\u212A' then 'k'
  else c

/-- Whether the segment ends, up to case, in a point and one of the extensions. -/
def hasExtension (extensions : List (List Char)) (segment : List Char) : Bool :=
  let folded := segment.map foldLetter
  extensions.any fun e => ('.' :: e).isSuffixOf folded

/-- The extensions of image files. -/
def imageExtensions : List (List Char) :=
  [['p', 'n', 'g'], ['j', 'p', 'g'], ['j', 'p', 'e', 'g'], ['s', 'v', 'g'], ['t', 'i', 'f'],
    ['t', 'i', 'f', 'f'], ['g', 'i', 'f'], ['i', 'c', 'o']]

/-- The extensions of font files. -/
def fontExtensions : List (List Char) := [['t', 't', 'f'], ['w', 'o', 'f', 'f']]

def isImage (segment : List Char) : Bool := hasExtension imageExtensions segment

def isFont (segment : List Char) : Bool := hasExtension fontExtensions segment

/-! ## Classification -/

/-- Which kinds are looked for. -/
structure Detection where
  hashes : Bool
  numbers : Bool
  uuids : Bool
  ips : Bool
  images : Bool
  fonts : Bool
  deriving DecidableEq

/-- Every kind is looked for. -/
def Detection.all : Detection := ⟨true, true, true, true, true, true⟩

/-- No kind is looked for. -/
def Detection.none : Detection := ⟨false, false, false, false, false, false⟩

/-- The kind of a segment: the first whose test it passes among those looked for.  Images and fonts
are looked for in the last segment only, whose extension means something. -/
def Detection.classify (d : Detection) (last : Bool) (segment : List Char) : Option Kind :=
  if segment.isEmpty then .none
  else if d.hashes && isHash segment then some .hash
  else if d.numbers && (isNumeric segment || isHexadecimal segment) then some .number
  else if d.uuids && isUuid segment then some .uuid
  else if d.ips && isAddress segment then some .ip
  else if last && d.images && isImage segment then some .image
  else if last && d.fonts && isFont segment then some .font
  else .none

/-- A segment, or the placeholder of its kind. -/
def Detection.substitute (d : Detection) (last : Bool) (segment : List Char) : List Char :=
  match d.classify last segment with
  | some kind => kind.placeholder
  | .none => segment

end RequestKeys.Path
