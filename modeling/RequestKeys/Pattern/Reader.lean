import RequestKeys.Pattern.Form
import RequestKeys.Unicode.Property

/-!
# Reading patterns

A recursive descent over the characters of a pattern.  `readForm?` accepts exactly the well-formed
patterns; look-around, back-references and unknown escapes are among what it refuses.
-/

namespace RequestKeys.Pattern

/-- Where a reader stands: the characters ahead, whether blanks and comments are skipped, and the
names given to groups so far. -/
structure Cursor where
  rest : List Char
  verbose : Bool
  names : List (List Char)

/-- A reader moves the cursor or refuses the pattern. -/
abbrev Reader := StateT Cursor Option

namespace Reader

def refuse {α : Type} : Reader α := fun _ => none

/-- The character ahead. -/
def peek : Reader (Option Char) := fun s => some (s.rest.head?, s)

/-- The character after the one ahead. -/
def peekSecond : Reader (Option Char) := fun s => some (s.rest[1]?, s)

/-- Moves past the character ahead. -/
def bump : Reader Unit := fun s => some ((), { s with rest := s.rest.drop 1 })

/-- The text from the first character on that is neither blank nor in a comment. -/
def skipBlanks : (fuel : Nat) → List Char → List Char
  | 0, text => text
  | _ + 1, [] => []
  | fuel + 1, c :: rest =>
    if Blank.isBlank c then skipBlanks fuel rest
    else if c = '#' then skipBlanks fuel ((rest.dropWhile (· ≠ '\n')).drop 1)
    else c :: rest

/-- Moves past blanks and comments, where they are skipped. -/
def bumpBlanks : Reader Unit := fun s =>
  some ((), if s.verbose then { s with rest := skipBlanks s.rest.length s.rest } else s)

/-- Moves past the character ahead and what is skipped after it. -/
def advance : Reader Unit := do
  bump
  bumpBlanks

/-- The character after the one ahead, past what is skipped. -/
def peekPastBlanks : Reader (Option Char) := fun s =>
  let rest := s.rest.drop 1
  some ((if s.verbose then skipBlanks rest.length rest else rest).head?, s)

/-- Moves past `text` if it is ahead, and says whether it was. -/
def bumpIf (text : List Char) : Reader Bool := fun s =>
  if text.isPrefixOf s.rest then some (true, { s with rest := s.rest.drop text.length })
  else some (false, s)

/-- The character ahead, which has to be there. -/
def current : Reader Char := do
  match ← peek with
  | some c => pure c
  | none => refuse

/-- The characters ahead that satisfy `p`, each moved past with what is skipped after it. -/
def takeWhile (p : Char → Bool) : (fuel : Nat) → Reader (List Char)
  | 0 => pure []
  | fuel + 1 => do
    match ← peek with
    | some c =>
      if p c then
        advance
        return c :: (← takeWhile p fuel)
      else pure []
    | none => pure []

/-- An upper bound for the number of steps a loop can make. -/
def fuel : Reader Nat := fun s => some (s.rest.length + 1, s)

/-- The longest stretch of characters that satisfy `p`. -/
def stretch (p : Char → Bool) : Reader (List Char) := do takeWhile p (← fuel)

/-! ## Numbers -/

/-- The largest count a repetition can have. -/
def maxCount : Nat := 4294967295

/-- A decimal count with blanks around it; `none` where there is no digit. -/
def count? : Reader (Option Nat) := do
  modify fun s => { s with rest := s.rest.dropWhile Blank.isBlank }
  let digits ← stretch isDigit
  let _ ← stretch Blank.isBlank
  if digits.isEmpty then pure none
  else
    let n := digitsValue 10 digits
    if n ≤ maxCount then pure (some n) else refuse

/-- A count that has to be there. -/
def count : Reader Nat := do
  match ← count? with
  | some n => pure n
  | none => refuse

/-! ## Escapes -/

/-- What an escape or a plain character can be, outside brackets or inside. -/
inductive Atom where
  | literal (c : Literal)
  | dot
  | assertion (a : Assertion)
  | letter (k : LetterClass) (negated : Bool)
  | property (q : PropertyQuery) (negated : Bool)

/-- The character with the given number, unless it is a surrogate or too large. -/
def charOfNumber? (n : Nat) : Option Char :=
  if h : n.isValidChar then some (Char.ofNatAux n h) else none

/-- Exactly `size` hexadecimal digits. -/
def hexDigitsExactly : (size : Nat) → Reader (List Char)
  | 0 => pure []
  | size + 1 => do
    let c ← current
    if isHexDigit c then
      advance
      return c :: (← hexDigitsExactly size)
    else refuse

/-- What follows `\x`, `\u` and `\U`: two, four or eight digits, or any number of them in braces. -/
def hexEscape (size : Nat) : Reader Atom := do
  advance
  let braced := (← current) == '\x7b'
  let digits ← do
    if braced then
      advance
      let digits ← stretch (· ≠ '\x7d')
      let _ ← current
      advance
      pure digits
    else hexDigitsExactly size
  if digits.isEmpty || !digits.all isHexDigit then refuse
  else match charOfNumber? (digitsValue 16 digits) with
    | some c => pure (.literal ⟨c, size == 2 && !braced⟩)
    | none => refuse

/-- The text before the first occurrence of `mark` and the text after it. -/
def splitAtMark (mark : List Char) : List Char → Option (List Char × List Char)
  | [] => none
  | c :: rest =>
    if mark.isPrefixOf (c :: rest) then some ([], (c :: rest).drop mark.length)
    else (splitAtMark mark rest).map fun (head, tail) => (c :: head, tail)

/-- The query in braces: a name, or a name and a value. -/
def queryOf (text : List Char) : PropertyQuery :=
  match splitAtMark ['!', '='] text with
  | some (name, value) => .valued name value
  | none => match splitAtMark [':'] text with
    | some (name, value) => .valued name value
    | none => match splitAtMark ['='] text with
      | some (name, value) => .valued name value
      | none => .named text

/-- What follows `\p` and `\P`: one letter, or a query in braces. -/
def propertyEscape (negated : Bool) : Reader Atom := do
  advance
  let c ← current
  if c = '\x7b' then
    advance
    let text ← stretch (· ≠ '\x7d')
    let _ ← current
    bump
    pure (.property (queryOf text) negated)
  else if c = '\\' then refuse
  else
    advance
    pure (.property (.named [c]) negated)

/-- Characters with a meaning of their own somewhere in a pattern. -/
def isMeta (c : Char) : Bool :=
  ['\\', '.', '+', '*', '?', '(', ')', '|', '[', ']', '\x7b', '\x7d', '^', '$', '#', '&', '-',
    '~'].contains c

/-- Whether a backslash before `c` just means `c`: all ASCII characters but letters, digits and the
two angles. -/
def isEscapable (c : Char) : Bool := c.toNat < 0x80 && !c.isAlphanum && c ≠ '<' && c ≠ '>'

/-- What may stand in the name of a special boundary. -/
def isBoundaryLetter (c : Char) : Bool := c.isAlpha || c == '-'

/-- What follows `\b`: the name of a special boundary in braces, or nothing; braces that begin
otherwise are left to be read as a repetition. -/
def boundaryEscape : Reader Atom := do
  match ← peek with
  | some '\x7b' =>
    let before ← get
    advance
    if !isBoundaryLetter (← current) then
      set before
      pure (.assertion .wordBoundary)
    else
      let name ← stretch isBoundaryLetter
      if (← current) = '\x7d' then
        bump
        match String.ofList name with
        | "start" => pure (.assertion .wordStart)
        | "end" => pure (.assertion .wordEnd)
        | "start-half" => pure (.assertion .wordStartHalf)
        | "end-half" => pure (.assertion .wordEndHalf)
        | _ => refuse
      else refuse
  | _ => pure (.assertion .wordBoundary)

/-- A backslash, which is ahead, and what it escapes. -/
def escape : Reader Atom := do
  bump
  let c ← current
  match c with
  | 'x' => hexEscape 2
  | 'u' => hexEscape 4
  | 'U' => hexEscape 8
  | 'p' => propertyEscape false
  | 'P' => propertyEscape true
  | _ =>
    bump
    let literal (c : Char) : Reader Atom := pure (.literal ⟨c, false⟩)
    match c with
    | 'd' => pure (.letter .digit false)
    | 'D' => pure (.letter .digit true)
    | 's' => pure (.letter .space false)
    | 'S' => pure (.letter .space true)
    | 'w' => pure (.letter .word false)
    | 'W' => pure (.letter .word true)
    | 'a' => literal '\x07'
    | 'f' => literal '\x0c'
    | 't' => literal '\t'
    | 'n' => literal '\n'
    | 'r' => literal '\r'
    | 'v' => literal '\x0b'
    | 'A' => pure (.assertion .textStart)
    | 'z' => pure (.assertion .textEnd)
    | 'b' => boundaryEscape
    | 'B' => pure (.assertion .notWordBoundary)
    | '<' => pure (.assertion .wordStart)
    | '>' => pure (.assertion .wordEnd)
    | _ => if isMeta c || isEscapable c then literal c else refuse

/-! ## Bracket classes -/

/-- The names of the classes written `[:name:]`. -/
def asciiClassNames : List String :=
  ["alnum", "alpha", "ascii", "blank", "cntrl", "digit", "graph", "lower", "print", "punct",
    "space", "upper", "word", "xdigit"]

/-- A class `[:name:]` or `[:^name:]`, or nothing with the cursor unmoved. -/
def asciiClass? : Reader (Option SetForm) := fun s =>
  let nothing := some (none, s)
  match s.rest with
  | '[' :: ':' :: body =>
    let (negated, body) := match body with
      | '^' :: body => (true, body)
      | body => (false, body)
    let name := String.ofList (body.takeWhile (· ≠ ':'))
    match body.dropWhile (· ≠ ':') with
    | ':' :: ']' :: rest =>
      if asciiClassNames.contains name then
        some (some (.ascii name negated), { s with rest })
      else nothing
    | _ => nothing
  | _ => nothing

/-- A character or an escape inside brackets. -/
def setAtom : Reader Atom := do
  let c ← current
  if c = '\\' then escape
  else
    bump
    pure (.literal ⟨c, false⟩)

/-- An atom as an item of a class; positions cannot be one. -/
def itemOf : Atom → Reader SetForm
  | .literal c => pure (.literal c)
  | .letter k negated => pure (.letter k negated)
  | .property q negated => pure (.property q negated)
  | .dot | .assertion _ => refuse

/-- An atom as an end of a range. -/
def endOf : Atom → Reader Literal
  | .literal c => pure c
  | _ => refuse

/-- An item or a range.  A hyphen before the closing bracket or before another hyphen makes no
range. -/
def setRange : Reader SetForm := do
  let first ← setAtom
  bumpBlanks
  let c ← current
  let next ← peekPastBlanks
  if c ≠ '-' || next == some ']' || next == some '-' then itemOf first
  else
    advance
    let _ ← current
    let last ← setAtom
    let first ← endOf first
    let last ← endOf last
    if first.char ≤ last.char then pure (.range first last) else refuse

/-- The hyphens that stand for themselves at the start of a class. -/
def leadingHyphens : Reader (List SetForm) := do
  let hyphens ← stretch (· == '-')
  let _ ← current
  pure (hyphens.map fun c => .literal ⟨c, false⟩)

/-- An opening bracket, a negation and the items that stand for themselves right after. -/
def openBracket : Reader (Bool × List SetForm) := do
  advance
  let negated := (← current) == '^'
  if negated then
    advance
    let _ ← current
  let hyphens ← leadingHyphens
  if hyphens.isEmpty && (← current) == ']' then
    advance
    let _ ← current
    pure (negated, [.literal ⟨']', false⟩])
  else pure (negated, hyphens)

/-- Applies a pending operation to what stands on its right. -/
def closeOperation : Option (SetOperation × SetForm) → SetForm → SetForm
  | none, right => right
  | some (op, left), right => .combined op left right

/-- The rest of a class up to its closing bracket: `items` are those since the last operation,
newest first. -/
def setBody : (fuel : Nat) → Option (SetOperation × SetForm) → (items : List SetForm) →
    Reader SetForm
  | 0, _, _ => refuse
  | fuel + 1, pending, items => do
    bumpBlanks
    let c ← current
    let next ← peekSecond
    let operation : Option SetOperation :=
      if c = '&' ∧ next = some '&' then some .intersection
      else if c = '-' ∧ next = some '-' then some .difference
      else if c = '~' ∧ next = some '~' then some .symmetricDifference
      else none
    if c = '[' then
      match ← asciiClass? with
      | some form => setBody fuel pending (form :: items)
      | none =>
        let (negated, first) ← openBracket
        let set ← setBody fuel none first.reverse
        setBody fuel pending (.bracket negated set :: items)
    else if c = ']' then
      bump
      pure (closeOperation pending (.ofItems items.reverse))
    else match operation with
      | some op =>
        bump
        bump
        setBody fuel (some (op, closeOperation pending (.ofItems items.reverse))) []
      | none => setBody fuel pending ((← setRange) :: items)

/-- A bracket class, whose opening bracket is ahead. -/
def bracket : Reader Form := do
  let (negated, first) ← openBracket
  let set ← setBody (← fuel) none first.reverse
  pure (.bracket negated set)

/-! ## Groups and repetitions -/

/-- The letters of switches up to the colon or the closing parenthesis, each at most once, with at
most one hyphen and a letter after it. -/
def flagLetters : (fuel : Nat) → (on : Bool) → (seen : List Char) → Reader FlagChange
  | 0, _, _ => refuse
  | fuel + 1, on, seen => do
    let c ← current
    if c = ':' ∨ c = ')' then
      if seen.head? = some '-' then refuse else pure []
    else if seen.contains c then refuse
    else
      bump
      if c = '-' then flagLetters fuel false (c :: seen)
      else if ['i', 'm', 's', 'U', 'u', 'R', 'x'].contains c then
        return (c, on) :: (← flagLetters fuel on (c :: seen))
      else refuse

/-- Whether a name may contain the character, at its start or further on. -/
def isNameChar (first : Bool) (c : Char) : Bool :=
  c == '_' ||
    if first then Unicode.alphabetic.holds c
    else c == '.' || c == '[' || c == ']' || Unicode.alphanumeric.holds c

/-- The name of a group up to the closing angle, which no other group may have. -/
def groupName : Reader Unit := do
  let s ← get
  let name := s.rest.takeWhile (· ≠ '>')
  match s.rest.dropWhile (· ≠ '>'), name with
  | _ :: rest, c :: more =>
    if isNameChar true c && more.all (isNameChar false) && !s.names.contains name then
      set { s with rest, names := name :: s.names }
    else refuse
  | _, _ => refuse

/-- What opens a group. -/
inductive Opening where
  | capture
  | group (change : FlagChange)
  | switch (change : FlagChange)

/-- An opening parenthesis and what belongs to it. -/
def opening : Reader Opening := do
  bump
  bumpBlanks
  let lookAround := [['?', '='], ['?', '!'], ['?', '<', '='], ['?', '<', '!']]
  let rest := (← get).rest
  if lookAround.any (·.isPrefixOf rest) then refuse
  else if (← bumpIf ['?', 'P', '<']) || (← bumpIf ['?', '<']) then
    groupName
    pure .capture
  else if ← bumpIf ['?'] then
    let change ← flagLetters (← fuel) true []
    let c ← current
    bump
    if c = ')' then
      if change.isEmpty then refuse else pure (.switch change)
    else pure (.group change)
  else pure .capture

/-- Whether blanks are skipped after a change of switches. -/
def verboseAfter (change : FlagChange) (before : Bool) : Bool :=
  change.foldl (fun v (c, on) => if c = 'x' then on else v) before

/-- The bounds in braces, whose opening is ahead. -/
def bounds : Reader (Nat × Option Nat) := do
  advance
  let _ ← current
  let min ← count
  let limits ← do
    if (← current) = ',' then
      advance
      if (← current) = '\x7d' then pure (min, none)
      else pure (min, some (← count))
    else pure (min, some min)
  if (← current) = '\x7d' then
    advance
    match limits with
    | (_, none) => pure limits
    | (_, some max) => if min ≤ max then pure limits else refuse
  else refuse

/-- Applies a repetition to the newest of the items. -/
def repeatLast (min : Nat) (max : Option Nat) : List Form → Reader (List Form)
  | form :: items => if form.repeatable then pure (.repetition form min max :: items) else refuse
  | [] => refuse

/-- Moves past the question mark that makes a repetition reluctant. -/
def bumpReluctant : Reader Unit := do
  let _ ← bumpIf ['?']

/-- An atom as a part of a pattern. -/
def formOf : Atom → Form
  | .literal c => .literal c
  | .dot => .dot
  | .assertion a => .assertion a
  | .letter k negated => .letter k negated
  | .property q negated => .property q negated

/-- A character or an escape outside brackets. -/
def atom : Reader Atom := do
  let c ← current
  match c with
  | '\\' => escape
  | _ =>
    bump
    match c with
    | '.' => pure .dot
    | '^' => pure (.assertion .lineStart)
    | '$' => pure (.assertion .lineEnd)
    | _ => pure (.literal ⟨c, false⟩)

/-- The rest of a pattern or a group up to its end: `branches` are those before the last bar and
`items` those after it, newest first. -/
def body : (fuel : Nat) → (branches items : List Form) → Reader Form
  | 0, _, _ => refuse
  | fuel + 1, branches, items => do
    bumpBlanks
    let branch := Form.ofSequence items.reverse
    match ← peek with
    | none => pure (.ofBranches (branch :: branches).reverse)
    | some ')' => pure (.ofBranches (branch :: branches).reverse)
    | some '|' =>
      bump
      body fuel (branch :: branches) []
    | some '(' =>
      let before := (← get).verbose
      match ← opening with
      | .switch change =>
        modify fun s => { s with verbose := verboseAfter change before }
        body fuel branches (.flags change :: items)
      | .capture =>
        let inner ← body fuel [] []
        close before
        body fuel branches (.capture inner :: items)
      | .group change =>
        modify fun s => { s with verbose := verboseAfter change before }
        let inner ← body fuel [] []
        close before
        body fuel branches (.group change inner :: items)
    | some '[' => body fuel branches ((← bracket) :: items)
    | some '?' =>
      bump
      bumpReluctant
      body fuel branches (← repeatLast 0 (some 1) items)
    | some '*' =>
      bump
      bumpReluctant
      body fuel branches (← repeatLast 0 none items)
    | some '+' =>
      bump
      bumpReluctant
      body fuel branches (← repeatLast 1 none items)
    | some '\x7b' =>
      let (min, max) ← bounds
      bumpReluctant
      body fuel branches (← repeatLast min max items)
    | some _ => body fuel branches (formOf (← atom) :: items)
where
  /-- Moves past the closing parenthesis, after which blanks count as they did before the group. -/
  close (verbose : Bool) : Reader Unit := do
    if (← current) = ')' then
      bump
      modify fun s => { s with verbose }
    else refuse

end Reader

/-- How deep the parts of a pattern may be nested. -/
def maxDepth : Nat := 250

/-- The form of a well-formed pattern. -/
def readForm? (text : List Char) : Option Form := do
  let (form, cursor) ← Reader.body (text.length + 1) [] [] ⟨text, false, []⟩
  if cursor.rest.isEmpty && form.depth ≤ maxDepth then some form else none

end RequestKeys.Pattern
