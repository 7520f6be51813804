import RequestKeys.Unicode.Property

/-!
# Regular expressions

What a pattern means: sets of characters, positions, sequences, choices and repetitions.
-/

namespace RequestKeys.Pattern

/-- What the place between two characters can be asked for.  `ascii` asks about the word characters
of ASCII instead of those of Unicode. -/
inductive Position where
  | textStart
  | textEnd
  | lineStart
  | lineEnd
  | lineStartCrlf
  | lineEndCrlf
  | boundary (ascii : Bool)
  | notBoundary (ascii : Bool)
  | wordStart (ascii : Bool)
  | wordEnd (ascii : Bool)
  | wordStartHalf (ascii : Bool)
  | wordEndHalf (ascii : Bool)

/-- A regular expression over characters. -/
inductive Regex where
  | empty
  | char (c : Char)
  | oneOf (set : Unicode.Ranges)
  | position (p : Position)
  | sequence (parts : List Regex)
  | choice (parts : List Regex)
  | repetition (part : Regex) (min : Nat) (max : Option Nat)
  | capture (part : Regex)

namespace Position

/-- Whether the neighbour of a position is a word character. -/
def isWord (ascii : Bool) : Option Char → Bool
  | none => false
  | some c => if ascii then c.isAlphanum || c == '_' else Unicode.wordCharacters.holds c

/-- Whether the position holds between the two neighbours, `none` standing for an end of the text.
A carriage return and the line feed after it are one line end. -/
def holds (before after : Option Char) : Position → Bool
  | textStart => before.isNone
  | textEnd => after.isNone
  | lineStart => before.isNone || before == some '\n'
  | lineEnd => after.isNone || after == some '\n'
  | lineStartCrlf =>
    before.isNone || before == some '\n' || (before == some '\r' && after != some '\n')
  | lineEndCrlf =>
    after.isNone || after == some '\r' || (after == some '\n' && before != some '\r')
  | boundary ascii => isWord ascii before != isWord ascii after
  | notBoundary ascii => isWord ascii before == isWord ascii after
  | wordStart ascii => !isWord ascii before && isWord ascii after
  | wordEnd ascii => isWord ascii before && !isWord ascii after
  | wordStartHalf ascii => !isWord ascii before
  | wordEndHalf ascii => !isWord ascii after

end Position

end RequestKeys.Pattern
