import RequestKeys.Yaml.Cursor

/-!
# YAML scalars

Plain, quoted and block scalars.  A line break inside a scalar is a space, and `n + 1` line breaks are
`n` line feeds; only literal block scalars keep their lines.
-/

namespace RequestKeys.Yaml

/-- What a stretch of line breaks is folded into. -/
def folded (breaks : Nat) : List Char :=
  if breaks ≤ 1 then [' '] else List.replicate (breaks - 1) '\n'

/-- Moves past line breaks and the blanks around them, and counts the line breaks. -/
def skipBreaks : (fuel : Nat) → Nat → Cursor → Nat × Cursor
  | 0, n, s => (n, s)
  | fuel + 1, n, s => match s.rest with
    | '\n' :: rest => skipBreaks fuel (n + 1) { s with rest, column := 0, fresh := true, spaced := true }
    | c :: rest =>
      if isSpace c then skipBreaks fuel n { s with rest, column := s.column + 1, spaced := true }
      else (n, s)
    | [] => (n, s)

/-! ## Plain scalars -/

/-- The marks of the structure, besides those of flow collections, that begin no plain scalar. -/
def indicators : List Char := ['#', '&', '*', '!', '|', '>', '\'', '"', '%', '@', '\x60']

/-- Whether a plain scalar can begin here.  A hyphen, a question mark or a colon begins one if it is
followed by text. -/
def startsPlain (flow : Bool) (c : Char) (next : Option Char) : Bool :=
  if c == '-' || c == '?' || c == ':' then !isGap next && !(flow && next.any isFlowMark)
  else !isFlowMark c && !indicators.contains c

/-- The plain text of one line, without the blanks after it: up to a colon before a gap or a comment,
and inside flow collections up to their marks. -/
def plainLine (flow : Bool) : (spaces : List Char) → List Char → List Char
  | _, [] => []
  | spaces, c :: rest =>
    if c = '\n' then []
    else if isSpace c then plainLine flow (c :: spaces) rest
    else if c = '#' ∧ !spaces.isEmpty then []
    else if c = ':' ∧ (isGap rest.head? || (flow && rest.head?.any isFlowMark)) then []
    else if flow && isFlowMark c then []
    else spaces.reverse ++ c :: plainLine flow [] rest

/-- Whether a line that continues a plain scalar starts here. -/
def continuesPlain (flow : Bool) (minColumn : Nat) (s : Cursor) : Bool :=
  match s.rest with
  | [] => false
  | c :: rest =>
    c != '#' && (flow || minColumn ≤ s.column) && !s.atEnd && !(flow && isFlowMark c) &&
      !(c == ':' && (isGap rest.head? || (flow && rest.head?.any isFlowMark)))

/-- The lines of a plain scalar after its first. -/
def plainRest (flow : Bool) (minColumn : Nat) : (fuel : Nat) → Reader (List Char)
  | 0 => pure []
  | fuel + 1 => fun s =>
    let (breaks, t) := skipBreaks (s.rest.length + 1) 0 s
    if breaks = 0 ∨ !continuesPlain flow minColumn t then some ([], s)
    else
      let line := plainLine flow [] t.rest
      match plainRest flow minColumn fuel (t.drop line.length) with
      | some (rest, u) => some (folded breaks ++ line ++ rest, u)
      | none => none

/-! ## Quoted scalars -/

/-- The character with the given number, unless it is a surrogate or too large. -/
def charOfNumber? (n : Nat) : Option Char :=
  if h : n.isValidChar then some (Char.ofNatAux n h) else none

/-- The characters after a backslash that stand for one character. -/
def shortEscape? : Char → Option Char
  | '0' => some '\x00'
  | 'a' => some '\x07'
  | 'b' => some '\x08'
  | 't' | '\t' => some '\t'
  | 'n' => some '\n'
  | 'v' => some '\x0b'
  | 'f' => some '\x0c'
  | 'r' => some '\r'
  | 'e' => some '\x1b'
  | ' ' => some ' '
  | '"' => some '"'
  | '/' => some '/'
  | '\\' => some '\\'
  | 'N' => some '\u0085'
  | '_' => some '\u00A0'
  | 'L' => some '\u2028'
  | 'P' => some '\u2029'
  | _ => none

/-- How many hexadecimal digits follow a letter after a backslash. -/
def escapeSize? : Char → Option Nat
  | 'x' => some 2
  | 'u' => some 4
  | 'U' => some 8
  | _ => none

/-- What follows a backslash, and how many characters it takes. -/
def escape? : List Char → Option (Char × Nat)
  | [] => none
  | c :: rest => match escapeSize? c with
    | some size =>
      let digits := rest.take size
      if digits.length = size ∧ digits.all isHexDigit then
        (charOfNumber? (digitsValue 16 digits)).map fun c => (c, size + 1)
      else none
    | none => (shortEscape? c).map fun c => (c, 1)

/-- Moves past line breaks inside quotes.  The next line has to be indented, and no document may end
there. -/
def quotedBreaks (minColumn : Nat) : Reader Nat := fun s =>
  let (breaks, t) := skipBreaks (s.rest.length + 1) 0 s
  if t.atEnd || t.column < minColumn then none else some (breaks, t)

/-- A quoted scalar after its opening quote: `blanks` are those read since the last text. -/
def quoted (quote : Char) (minColumn : Nat) : (fuel : Nat) → (blanks : List Char) →
    Reader (List Char)
  | 0, _ => refuse
  | fuel + 1, blanks => do
    match ← peek with
    | none => refuse
    | some c =>
      let next ← peekSecond
      if c = quote then
        if quote = '\'' ∧ next = some '\'' then
          bump 2
          return blanks.reverse ++ '\'' :: (← quoted quote minColumn fuel [])
        else
          bump 1
          pure blanks.reverse
      else if c = '\n' then
        let breaks ← quotedBreaks minColumn
        return folded breaks ++ (← quoted quote minColumn fuel [])
      else if isSpace c then
        bump 1
        quoted quote minColumn fuel (c :: blanks)
      else if c = '\\' ∧ quote = '"' then
        if next = some '\n' then
          bump 1
          let breaks ← quotedBreaks minColumn
          return blanks.reverse ++ List.replicate (breaks - 1) '\n' ++
            (← quoted quote minColumn fuel [])
        else match escape? ((← get).rest.drop 1) with
          | some (e, size) =>
            bump (size + 1)
            return blanks.reverse ++ e :: (← quoted quote minColumn fuel [])
          | none => refuse
      else
        bump 1
        return blanks.reverse ++ c :: (← quoted quote minColumn fuel [])

/-! ## Block scalars -/

/-- What happens to the line breaks at the end of a block scalar. -/
inductive Chomping where
  | clip
  | strip
  | keep
  deriving DecidableEq

/-- The header of a block scalar after its mark: chomping and indentation in either order. -/
def blockHeader : List Char → Option (Chomping × Option Nat × List Char)
  | text =>
    let chomping (c : Char) : Option Chomping :=
      if c = '-' then some .strip else if c = '+' then some .keep else none
    let size (c : Char) : Option Nat :=
      if isDigit c && c != '0' then some (c.toNat - '0'.toNat) else none
    match text with
    | a :: b :: rest =>
      match chomping a, size a, chomping b, size b with
      | some k, _, _, some n => some (k, some n, rest)
      | _, some n, some k, _ => some (k, some n, rest)
      | some k, _, _, _ => some (k, none, b :: rest)
      | _, some n, _, _ => some (.clip, some n, b :: rest)
      | _, _, _, _ => some (.clip, none, text)
    | [a] => match chomping a, size a with
      | some k, _ => some (k, none, [])
      | _, some n => some (.clip, some n, [])
      | _, _ => some (.clip, none, [a])
    | [] => some (.clip, none, [])

/-- The text after the rest of a header line, which only a comment may follow. -/
def endHeader (text : List Char) : Option (List Char) :=
  let rest := text.dropWhile isSpace
  match rest with
  | [] => some []
  | '\n' :: rest => some rest
  | '#' :: _ =>
    if rest.length < text.length then some ((rest.dropWhile (· ≠ '\n')).drop 1) else none
  | _ => none

/-- The column of the first line that is not blank, or of the longest blank line before the end. -/
def blockIndent : (fuel longest : Nat) → List Char → Nat
  | 0, longest, _ => longest
  | fuel + 1, longest, text =>
    let spaces := (text.takeWhile (· = ' ')).length
    match text.drop spaces with
    | '\n' :: rest => blockIndent fuel (max longest spaces) rest
    | [] => max longest spaces
    | _ => spaces

/-- The lines of a block scalar without their indentation, the text after them, and whether it starts
a line there.  Blank lines belong to it; the first other line with less indentation does not. -/
def blockLines (indent : Nat) : (fuel : Nat) → List Char → List (List Char) × List Char
  | 0, text => ([], text)
  | fuel + 1, text =>
    if text.isEmpty then ([], [])
    else
      let spaces := (text.takeWhile (· = ' ')).length
      let line := text.takeWhile (· ≠ '\n')
      let rest := (text.drop line.length).drop 1
      if spaces < indent ∧ spaces < line.length then ([], text)
      else
        let (lines, after) := blockLines indent fuel rest
        (line.drop indent :: lines, after)

/-- The lines laid end to end in a folded scalar.  A line break between two lines that begin with
text is a space or vanishes before blank lines; around lines that begin with a blank it stays. -/
def foldLines : (previous : Option (List Char)) → (blank : Nat) → List (List Char) → List Char
  | _, _, [] => []
  | previous, blank, line :: rest =>
    if line.isEmpty then foldLines previous (blank + 1) rest
    else
      let indented (l : List Char) := l.head?.any isSpace
      let before := match previous with
        | none => List.replicate blank '\n'
        | some p =>
          if indented p || indented line then List.replicate (blank + 1) '\n'
          else if blank = 0 then [' ']
          else List.replicate blank '\n'
      before ++ line ++ foldLines (some line) 0 rest

/-- A block scalar whose mark is ahead, below a parent at column `parent` (one less than the least
column of the content). -/
def blockScalar (minColumn : Nat) : Reader (List Char) := fun s => do
  let literal := s.rest.head? = some '|'
  let (chomping, size, rest) ← blockHeader (s.rest.drop 1)
  let body ← endHeader rest
  let indent := match size with
    | some n => minColumn - 1 + n
    | none => max (max (blockIndent (body.length + 1) 0 body) minColumn) 1
  let (lines, after) := blockLines indent (body.length + 1) body
  let content := (lines.reverse.dropWhile (·.isEmpty)).reverse
  let trailing := lines.length - content.length
  let text :=
    if literal then ['\n'].intercalate content else foldLines none 0 content
  let ending := match chomping with
    | .strip => []
    | .clip => if content.isEmpty then [] else ['\n']
    | .keep => List.replicate (trailing + if content.isEmpty then 0 else 1) '\n'
  some (text ++ ending, { s with rest := after, column := 0, fresh := true, spaced := true })

end RequestKeys.Yaml
