import RequestKeys.Request.Event
import RequestKeys.Text.Blank

/-!
# Request lines

A line of an access log holds a request, a method and a target, either alone or as its first quoted
field.
-/

namespace RequestKeys.Line

/-- The symbols that may stand in a method. -/
def methodSymbols : List Char :=
  ['!', '#', '$', '%', '&', '\'', '*', '+', '-', '.', '^', '_', '\x60', '|', '~']

/-- A character of a method after the first. -/
def isMethodChar (c : Char) : Bool := c.isUpper || c.isDigit || methodSymbols.contains c

/-- A capital letter followed by capital letters, digits and symbols. -/
def isMethod : List Char → Bool
  | [] => false
  | c :: rest => c.isUpper && rest.all isMethodChar

/-- The part of a line that is read: its first quoted field, up to the next quote or the end, or the
whole line if it has no quote. -/
def requestField (line : List Char) : List Char :=
  match Split.cut '"' line with
  | none => line
  | some (_, rest) => Split.upTo '"' rest

/-- The request that a line holds. -/
def parse? (line : List Char) : Option Event :=
  match Blank.words (requestField line) with
  | method :: target :: _ => if isMethod method then some (.ofRequest method target) else none
  | _ => none

end RequestKeys.Line
