/-!
# Patterns as they are written

The parts of a pattern, before flags and character classes have been given their meaning.
-/

namespace RequestKeys.Pattern

/-- The switches of a pattern; `x`, which only governs how the text is read, is kept by the reader
alone, and `U`, which prefers other matches without changing whether there is one, by nobody. -/
structure Flags where
  ignoreCase : Bool
  multiLine : Bool
  dotAll : Bool
  unicode : Bool
  crlf : Bool

/-- The switches that a pattern starts with. -/
def Flags.start : Flags := ⟨false, false, false, true, false⟩

/-- A change of switches such as `i-s`: the letters in order, with `true` for those switched on. -/
abbrev FlagChange := List (Char × Bool)

/-- The positions that a part without width can ask for. -/
inductive Assertion where
  | lineStart
  | lineEnd
  | textStart
  | textEnd
  | wordBoundary
  | notWordBoundary
  | wordStart
  | wordEnd
  | wordStartHalf
  | wordEndHalf

/-- The classes with a letter of their own. -/
inductive LetterClass where
  | digit
  | space
  | word

/-- What stands between the braces of a property class. -/
inductive PropertyQuery where
  | named (name : List Char)
  | valued (name value : List Char)

/-- A single character; `octet` marks the spelling by exactly two hexadecimal digits, which means an
octet where Unicode is switched off. -/
structure Literal where
  char : Char
  octet : Bool

/-- The operations between the sets of a bracket class. -/
inductive SetOperation where
  | intersection
  | difference
  | symmetricDifference

/-- What stands inside the brackets of a class. -/
inductive SetForm where
  | empty
  | literal (c : Literal)
  | range (first last : Literal)
  | ascii (name : String) (negated : Bool)
  | letter (k : LetterClass) (negated : Bool)
  | property (q : PropertyQuery) (negated : Bool)
  | bracket (negated : Bool) (set : SetForm)
  | union (items : List SetForm)
  | combined (op : SetOperation) (left right : SetForm)

/-- A pattern as written. -/
inductive Form where
  | empty
  | flags (change : FlagChange)
  | literal (c : Literal)
  | dot
  | assertion (a : Assertion)
  | letter (k : LetterClass) (negated : Bool)
  | property (q : PropertyQuery) (negated : Bool)
  | bracket (negated : Bool) (set : SetForm)
  | repetition (form : Form) (min : Nat) (max : Option Nat)
  | capture (form : Form)
  | group (change : FlagChange) (form : Form)
  | alternation (forms : List Form)
  | concatenation (forms : List Form)

namespace SetForm

/-- The union of the items that stand side by side. -/
def ofItems : List SetForm → SetForm
  | [] => .empty
  | [s] => s
  | items => .union items

mutual

/-- How deep brackets, unions and operations are nested. -/
def depth : SetForm → Nat
  | .bracket _ set => 1 + set.depth
  | .union items => 1 + depths items
  | .combined _ left right => 1 + max left.depth right.depth
  | _ => 0

def depths : List SetForm → Nat
  | [] => 0
  | s :: rest => max s.depth (depths rest)

end

end SetForm

namespace Form

/-- The forms that stand one after another. -/
def ofSequence : List Form → Form
  | [] => .empty
  | [f] => f
  | forms => .concatenation forms

/-- The forms that stand between bars. -/
def ofBranches : List Form → Form
  | [f] => f
  | forms => .alternation forms

/-- Whether a repetition operator may follow. -/
def repeatable : Form → Bool
  | .empty | .flags _ => false
  | _ => true

mutual

/-- How deep groups, repetitions, alternations, sequences and classes are nested. -/
def depth : Form → Nat
  | .bracket _ set => 1 + set.depth
  | .repetition form _ _ => 1 + form.depth
  | .capture form => 1 + form.depth
  | .group _ form => 1 + form.depth
  | .alternation forms => 1 + depths forms
  | .concatenation forms => 1 + depths forms
  | _ => 0

def depths : List Form → Nat
  | [] => 0
  | f :: rest => max f.depth (depths rest)

end

end Form

end RequestKeys.Pattern
