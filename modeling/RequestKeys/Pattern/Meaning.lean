import RequestKeys.Pattern.Form
import RequestKeys.Pattern.Regex
import RequestKeys.Unicode.Folding
import RequestKeys.Unicode.Script

/-!
# The meaning of a pattern

Flags are applied, classes become sets of characters, and what cannot match text is refused: an
unknown property, a property class or a negated class with Unicode switched off, and the like.
-/

namespace RequestKeys.Pattern

open Unicode (Ranges)

/-! ## Property queries -/

/-- A name in small letters without blanks, underscores, hyphens and a leading `is`.  What is left
of `isc` alone is spelled out again, so that it does not turn into the category `c`. -/
def plainName (name : List Char) : String :=
  let small := name.map fun c => if 'A' ≤ c ∧ c ≤ 'Z' then Char.ofNat (c.toNat + 32) else c
  let (hasIs, body) := match small with
    | 'i' :: 's' :: rest => (true, rest)
    | other => (false, other)
  let body := body.filter fun c => c ≠ ' ' && c ≠ '_' && c ≠ '-' && c.toNat < 0x80
  if hasIs && body == ['c'] then "isc" else String.ofList body

/-- The set of a query: a binary property, a category or a script by name alone, or a category, a
script or script extensions by the name of the property and the value. -/
def PropertyQuery.set? : PropertyQuery → Option Ranges
  | .named name =>
    let name := plainName name
    if let some set := Unicode.propertyNamed name then some set
    else if let some set := Unicode.categoryNamed name then some set
    else (Unicode.scriptNamed? name).map (·.ranges)
  | .valued name value =>
    let value := plainName value
    match plainName name with
    | "gc" | "generalcategory" => Unicode.categoryNamed value
    | "sc" | "script" => (Unicode.scriptNamed? value).map (·.ranges)
    | "scx" | "scriptextensions" => (Unicode.scriptNamed? value).map (·.extended)
    | _ => none

/-! ## Classes -/

/-- The characters of a class written `[:name:]`. -/
def asciiClass (name : String) : Ranges :=
  match name with
  | "alnum" => [(0x30, 0x39), (0x41, 0x5A), (0x61, 0x7A)]
  | "alpha" => [(0x41, 0x5A), (0x61, 0x7A)]
  | "ascii" => [(0, 0x7F)]
  | "blank" => [(0x9, 0x9), (0x20, 0x20)]
  | "cntrl" => [(0, 0x1F), (0x7F, 0x7F)]
  | "digit" => [(0x30, 0x39)]
  | "graph" => [(0x21, 0x7E)]
  | "lower" => [(0x61, 0x7A)]
  | "print" => [(0x20, 0x7E)]
  | "punct" => [(0x21, 0x2F), (0x3A, 0x40), (0x5B, 0x60), (0x7B, 0x7E)]
  | "space" => [(0x9, 0xD), (0x20, 0x20)]
  | "upper" => [(0x41, 0x5A)]
  | "word" => [(0x30, 0x39), (0x41, 0x5A), (0x5F, 0x5F), (0x61, 0x7A)]
  | "xdigit" => [(0x30, 0x39), (0x41, 0x46), (0x61, 0x66)]
  | _ => []

/-- The characters of a class with a letter of its own. -/
def LetterClass.set (unicode : Bool) : LetterClass → Ranges
  | .digit => if unicode then Unicode.decimalCharacters else asciiClass "digit"
  | .space => if unicode then Unicode.blankCharacters else asciiClass "space"
  | .word => if unicode then Unicode.wordCharacters else asciiClass "word"

/-- The members of a set and the ASCII letters equal to one of them up to case. -/
def closeUnderAsciiCase (s : Ranges) : Ranges :=
  let letters := (List.range 26).flatMap fun i =>
    (if s.contains (0x41 + i) then [(0x61 + i, 0x61 + i)] else []) ++
      (if s.contains (0x61 + i) then [(0x41 + i, 0x41 + i)] else [])
  Ranges.union s (.normalize letters)

/-- A set closed under case where case is ignored. -/
def Flags.fold (f : Flags) (s : Ranges) : Ranges :=
  if !f.ignoreCase then s
  else if f.unicode then Unicode.closeUnderCase s
  else closeUnderAsciiCase s

/-- A set or its complement.  Without Unicode a set counts octets, and one that reaches beyond ASCII
could split a character. -/
def Flags.negate? (f : Flags) (negated : Bool) (s : Ranges) : Option Ranges :=
  let set := if negated then Ranges.complement s else s
  if f.unicode || set.isAscii then some set else none

/-- A literal outside brackets.  An octet beyond ASCII is no text. -/
def Flags.char? (f : Flags) (c : Literal) : Option Char :=
  if f.unicode || !c.octet || c.char.toNat < 0x80 then some c.char else none

/-- A literal inside brackets, which without Unicode has to be ASCII. -/
def Flags.member? (f : Flags) (c : Literal) : Option Nat :=
  if f.unicode || c.char.toNat < 0x80 then some c.char.toNat else none

/-- The set of a property class. -/
def Flags.property? (f : Flags) (q : PropertyQuery) (negated : Bool) : Option Ranges := do
  guard f.unicode
  f.negate? negated (f.fold (← q.set?))

mutual

/-- The set that stands inside brackets. -/
def SetForm.set? (f : Flags) : SetForm → Option Ranges
  | .empty => some []
  | .literal c => (f.member? c).map fun n => [(n, n)]
  | .range first last => do some [(← f.member? first, ← f.member? last)]
  | .ascii name negated => f.negate? negated (f.fold (asciiClass name))
  | .letter k negated => f.negate? negated (k.set f.unicode)
  | .property q negated => f.property? q negated
  | .bracket negated set => do f.negate? negated (f.fold (← set.set? f))
  | .union items => unionSet? f items
  | .combined op left right => do
    let left := f.fold (← left.set? f)
    let right := f.fold (← right.set? f)
    some <| match op with
      | .intersection => Ranges.inter left right
      | .difference => Ranges.difference left right
      | .symmetricDifference => Ranges.symmetricDifference left right

/-- The union of the sets that stand side by side. -/
def unionSet? (f : Flags) : List SetForm → Option Ranges
  | [] => some []
  | s :: rest => do some (Ranges.union (← s.set? f) (← unionSet? f rest))

end

/-! ## Patterns -/

/-- The flags after a change of switches. -/
def Flags.change (f : Flags) (change : FlagChange) : Flags :=
  change.foldl (fun f (c, on) => match c with
    | 'i' => { f with ignoreCase := on }
    | 'm' => { f with multiLine := on }
    | 's' => { f with dotAll := on }
    | 'u' => { f with unicode := on }
    | 'R' => { f with crlf := on }
    | _ => f) f

/-- A set of characters as an expression. -/
def Regex.ofSet : Ranges → Regex
  | [(a, b)] => if a = b then .char (Char.ofNat a) else .oneOf [(a, b)]
  | set => .oneOf set

/-- The characters that a dot stands for; without Unicode it would stand for octets. -/
def Flags.dot? (f : Flags) : Option Ranges :=
  if !f.unicode then none
  else if f.dotAll then some (Ranges.complement [])
  else if f.crlf then some (Ranges.complement [(0xA, 0xA), (0xD, 0xD)])
  else some (Ranges.complement [(0xA, 0xA)])

/-- The position that an assertion asks for. -/
def Flags.position (f : Flags) : Assertion → Position
  | .lineStart => if !f.multiLine then .textStart else if f.crlf then .lineStartCrlf else .lineStart
  | .lineEnd => if !f.multiLine then .textEnd else if f.crlf then .lineEndCrlf else .lineEnd
  | .textStart => .textStart
  | .textEnd => .textEnd
  | .wordBoundary => .boundary !f.unicode
  | .notWordBoundary => .notBoundary !f.unicode
  | .wordStart => .wordStart !f.unicode
  | .wordEnd => .wordEnd !f.unicode
  | .wordStartHalf => .wordStartHalf !f.unicode
  | .wordEndHalf => .wordEndHalf !f.unicode

mutual

/-- The expression that a form stands for under the given flags, and the flags after it: a change of
switches lasts to the end of the group it stands in. -/
def Form.meaning? (f : Flags) : Form → Option (Regex × Flags)
  | .empty => some (.empty, f)
  | .flags change => some (.empty, f.change change)
  | .literal c => do
    let c ← f.char? c
    some (.ofSet (f.fold [(c.toNat, c.toNat)]), f)
  | .dot => do some (.oneOf (← f.dot?), f)
  | .assertion a => some (.position (f.position a), f)
  | .letter k negated => do some (.ofSet (← f.negate? negated (k.set f.unicode)), f)
  | .property q negated => do some (.ofSet (← f.property? q negated), f)
  | .bracket negated set => do
    some (.ofSet (← f.negate? negated (f.fold (.normalize (← set.set? f)))), f)
  | .repetition form min max => do
    let (r, f) ← form.meaning? f
    some (.repetition r min max, f)
  | .capture form => do some (.capture (← form.meaning? f).1, f)
  | .group change form => do some ((← form.meaning? (f.change change)).1, f)
  | .alternation forms => do
    let (rs, f) ← meanings? f forms
    some (.choice rs, f)
  | .concatenation forms => do
    let (rs, f) ← meanings? f forms
    some (.sequence rs, f)

/-- The expressions of forms that the flags pass through in turn. -/
def meanings? (f : Flags) : List Form → Option (List Regex × Flags)
  | [] => some ([], f)
  | form :: rest => do
    let (r, f) ← form.meaning? f
    let (rs, f) ← meanings? f rest
    some (r :: rs, f)

end

end RequestKeys.Pattern
