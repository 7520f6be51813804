import RequestKeys.Yaml.Node

/-!
# Moving through a YAML text

A cursor knows its column and whether only blanks precede it on its line, which is what YAML's
structure hangs on.
-/

namespace RequestKeys.Yaml

/-- Where a reader stands: the text ahead, the column, whether the line has held only blanks so far,
whether a blank or the start of the line precedes, and the nodes that have got an anchor. -/
structure Cursor where
  rest : List Char
  column : Nat
  fresh : Bool
  spaced : Bool
  anchors : List (List Char × Node)

/-- A reader moves the cursor or refuses the text. -/
abbrev Reader := StateT Cursor Option

def refuse {α : Type} : Reader α := fun _ => none

/-- Line breaks as line feeds. -/
def unifyBreaks : List Char → List Char
  | [] => []
  | '\r' :: '\n' :: rest => '\n' :: unifyBreaks rest
  | '\r' :: rest => '\n' :: unifyBreaks rest
  | c :: rest => c :: unifyBreaks rest

/-- A blank within a line. -/
def isSpace (c : Char) : Bool := c == ' ' || c == '\t'

/-- A blank, a line break, or the end of the text. -/
def isGap : Option Char → Bool
  | none => true
  | some c => isSpace c || c == '\n'

/-- The characters that structure flow collections. -/
def isFlowMark (c : Char) : Bool :=
  c == ',' || c == '[' || c == ']' || c == '\x7b' || c == '\x7d'

namespace Cursor

/-- Moves past some characters of the line. -/
def drop (n : Nat) (s : Cursor) : Cursor :=
  { s with
    rest := s.rest.drop n, column := s.column + n, fresh := s.fresh && n = 0,
    spaced := s.spaced && n = 0 }

/-- Whether a line with three hyphens or three points, which ends a document, is ahead. -/
def atMarker (mark : Char) (s : Cursor) : Bool :=
  s.column == 0 && s.fresh &&
    match s.rest with
    | a :: b :: c :: rest => a == mark && b == mark && c == mark && isGap rest.head?
    | _ => false

/-- Whether a document ends here. -/
def atEnd (s : Cursor) : Bool := s.rest.isEmpty || s.atMarker '-' || s.atMarker '.'

end Cursor

/-- Moves past blanks, comments and line breaks.  A comment needs a blank before it unless it begins
its line, and tabs are no indentation, though they may stand on lines that hold nothing else. -/
def skipFrom (tabsIndent : Bool) : (fuel : Nat) → (tabbed : Bool) → Cursor → Option Cursor
  | 0, _, _ => none
  | fuel + 1, tabbed, s => match s.rest with
    | ' ' :: rest =>
      skipFrom tabsIndent fuel tabbed { s with rest, column := s.column + 1, spaced := true }
    | '\t' :: rest =>
      skipFrom tabsIndent fuel (tabbed || s.fresh)
        { s with rest, column := s.column + 1, spaced := true }
    | '\n' :: rest =>
      skipFrom tabsIndent fuel false { s with rest, column := 0, fresh := true, spaced := true }
    | '#' :: rest =>
      if s.spaced then
        skipFrom tabsIndent fuel false { s with rest := rest.dropWhile (· ≠ '\n') }
      else some s
    | [] => some s
    | _ => if tabbed && !tabsIndent then none else some s

/-- Moves to the next content. -/
def skip : Reader Unit := fun s =>
  (skipFrom false (s.rest.length + 1) false s).map fun s => ((), s)

/-- Moves to the next content inside a flow collection, where columns do not matter. -/
def skipInFlow : Reader Unit := fun s =>
  (skipFrom true (s.rest.length + 1) false s).map fun s => ((), s)

/-- Moves past blanks within the line, and says whether there were any. -/
def skipSpaces : Reader Bool := fun s =>
  let n := (s.rest.takeWhile isSpace).length
  some (n ≠ 0, { s with
    rest := s.rest.drop n, column := s.column + n, spaced := s.spaced || n ≠ 0 })

/-- The character ahead. -/
def peek : Reader (Option Char) := fun s => some (s.rest.head?, s)

/-- The character after the one ahead. -/
def peekSecond : Reader (Option Char) := fun s => some (s.rest[1]?, s)

/-- Moves past `n` characters. -/
def bump (n : Nat) : Reader Unit := modify (·.drop n)

/-- The longest stretch of characters of the line that satisfy `p`. -/
def stretch (p : Char → Bool) : Reader (List Char) := fun s =>
  let read := s.rest.takeWhile fun c => c ≠ '\n' && p c
  some (read, s.drop read.length)

end RequestKeys.Yaml
