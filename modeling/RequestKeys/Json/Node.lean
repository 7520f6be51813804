import RequestKeys.Json.Numeral
import RequestKeys.Text.Utf8

/-!
# JSON texts as far as they can be read

Reading a JSON text never fails as a whole.  It gives a tree that ends, if the text is no JSON, at
the first place where it stops being so, and the defect found there.  Whoever walks the tree in the
order of the text therefore meets what is wrong in its form and what is wrong in its content in the
order in which they are written.

A value that is looked at and one that is skipped are held to slightly different rules, so a defect
has two readings.
-/

namespace RequestKeys.Json

/-- Why a text is no JSON: something else stands where JSON has to go on, or nothing does. -/
inductive Defect where
  | malformed
  | unfinished
  deriving DecidableEq

/-- How the elements of an array or an object end: with its closing bracket, or with a defect, which
may come after a comma; the defect may differ where elements are skipped. -/
inductive Ending where
  | closed
  | broken (afterComma : Bool) (read skip : Defect)

/-- A value of a JSON text, or the defect in its place.  A string or a name whose surrogates are not
paired has no text. -/
inductive Node where
  | null
  | bool (b : Bool)
  | number (n : Numeral)
  | string (text : Option (List Char))
  | array (items : List Node) (ending : Ending)
  | object (members : List (Option (List Char) × Node)) (ending : Ending)
  | defect (read skip : Defect)

/-- The blanks of JSON. -/
def isSpace (c : Char) : Bool := c == ' ' || c == '\n' || c == '\t' || c == '\r'

def skipSpace (text : List Char) : List Char := text.dropWhile isSpace

/-! ## Strings -/

/-- The characters after a backslash that stand for one character. -/
def shortEscape? : Char → Option Char
  | '"' => some '"'
  | '\\' => some '\\'
  | '/' => some '/'
  | 'b' => some '\x08'
  | 'f' => some '\x0c'
  | 'n' => some '\n'
  | 'r' => some '\r'
  | 't' => some '\t'
  | _ => none

/-- The value of four hexadecimal digits. -/
def unit? (a b c d : Char) : Option Nat :=
  if isHexDigit a && isHexDigit b && isHexDigit c && isHexDigit d then
    some (digitsValue 16 [a, b, c, d])
  else none

def isHighSurrogate (n : Nat) : Bool := 0xD800 ≤ n && n ≤ 0xDBFF

def isLowSurrogate (n : Nat) : Bool := 0xDC00 ≤ n && n ≤ 0xDFFF

/-- The defect of four digits that are not there: too few octets are left for them, or others. -/
def unitDefect (text : List Char) : Defect :=
  if (Utf8.encode (text.take 4)).length < 4 then .unfinished else .malformed

/-- Why no escape of four digits follows a high surrogate. -/
def pairDefect : List Char → Defect
  | [] | ['\\'] => .unfinished
  | '\\' :: 'u' :: rest => unitDefect rest
  | _ => .malformed

/-- The character of a pair of surrogates. -/
def pairedChar (high low : Nat) : Char :=
  Char.ofNat ((high - 0xD800) * 0x400 + (low - 0xDC00) + 0x10000)

/-- A string after its opening quote: its text, and the rest of the input if it is skipped. -/
def readString : List Char → Except Defect (List Char) × Except Defect (List Char)
  | [] => (.error .unfinished, .error .unfinished)
  | '"' :: rest => (.ok [], .ok rest)
  | '\\' :: 'u' :: a :: b :: c :: d :: rest => match unit? a b c d with
    | none => (.error .malformed, .error .malformed)
    | some n =>
      if isLowSurrogate n then (.error .malformed, (readString rest).2)
      else if isHighSurrogate n then
        match rest with
        | '\\' :: 'u' :: e :: f :: g :: h :: tail =>
          match (unit? e f g h).filter isLowSurrogate with
          | some low =>
            let (text, after) := readString tail
            (text.map (pairedChar n low :: ·), after)
          | none => (.error .malformed, (readString ('\\' :: 'u' :: e :: f :: g :: h :: tail)).2)
        | other => (.error (pairDefect other), (readString other).2)
      else
        let (text, after) := readString rest
        (text.map (Char.ofNat n :: ·), after)
  | '\\' :: 'u' :: rest => (.error (unitDefect rest), .error (unitDefect rest))
  | ['\\'] => (.error .unfinished, .error .unfinished)
  | '\\' :: c :: rest => match shortEscape? c with
    | some e =>
      let (text, after) := readString rest
      (text.map (e :: ·), after)
    | none => (.error .malformed, .error .malformed)
  | c :: rest =>
    if c.toNat < 0x20 then (.error .malformed, .error .malformed)
    else
      let (text, after) := readString rest
      (text.map (c :: ·), after)

/-! ## Words and numerals -/

/-- The rest of a word after its first letter. -/
def readWord (value : Node) : List Char → List Char → Node × Option (List Char)
  | [], rest => (value, some rest)
  | _ :: _, [] => (.defect .unfinished .unfinished, none)
  | w :: ws, c :: rest =>
    if c = w then readWord value ws rest else (.defect .malformed .malformed, none)

/-- A numeral that stops where a digit has to come.  Skipping calls that malformed even at the end of
the text. -/
def missingDigit (rest : List Char) : Node × Option (List Char) :=
  (.defect (if rest.isEmpty then .unfinished else .malformed) .malformed, none)

/-- The part of a numeral after its fraction. -/
def readExponent (negative : Bool) (whole fraction : List Char) :
    List Char → Node × Option (List Char)
  | [] => (.number ⟨negative, whole, fraction, none⟩, some [])
  | c :: rest =>
    if c = 'e' ∨ c = 'E' then
      let (down, rest) := match rest with
        | '+' :: rest => (false, rest)
        | '-' :: rest => (true, rest)
        | rest => (false, rest)
      let digits := rest.takeWhile isDigit
      if digits.isEmpty then missingDigit rest
      else (.number ⟨negative, whole, fraction, some (down, digits)⟩, some (rest.dropWhile isDigit))
    else (.number ⟨negative, whole, fraction, none⟩, some (c :: rest))

/-- A numeral after its sign.  A leading zero stands alone. -/
def readNumeral (negative : Bool) (text : List Char) : Node × Option (List Char) :=
  let whole := text.takeWhile isDigit
  match whole with
  | [] => missingDigit text
  | '0' :: _ :: _ => (.defect .malformed .malformed, none)
  | _ => match text.dropWhile isDigit with
    | '.' :: rest =>
      let fraction := rest.takeWhile isDigit
      if fraction.isEmpty then missingDigit rest
      else readExponent negative whole fraction (rest.dropWhile isDigit)
    | rest => readExponent negative whole [] rest

/-! ## Values -/

/-- The ending of elements after a defective one, where reading has stopped already. -/
def Ending.stopped : Ending := .broken false .malformed .malformed

mutual

/-- The value at the start of a text, and the rest of the text unless there is a defect. -/
def readValue : (fuel : Nat) → List Char → Node × Option (List Char)
  | 0, _ => (.defect .malformed .malformed, none)
  | fuel + 1, text => match skipSpace text with
    | [] => (.defect .unfinished .unfinished, none)
    | 'n' :: rest => readWord .null ['u', 'l', 'l'] rest
    | 't' :: rest => readWord (.bool true) ['r', 'u', 'e'] rest
    | 'f' :: rest => readWord (.bool false) ['a', 'l', 's', 'e'] rest
    | '"' :: rest => match readString rest with
      | (.ok text, .ok rest) => (.string (some text), some rest)
      | (.error _, .ok rest) => (.string none, some rest)
      | (.ok _, .error skip) => (.defect skip skip, none)
      | (.error read, .error skip) => (.defect read skip, none)
    | '[' :: rest =>
      let (items, ending, after) := readItems fuel true rest
      (.array items ending, after)
    | '\x7b' :: rest =>
      let (members, ending, after) := readMembers fuel true rest
      (.object members ending, after)
    | '-' :: rest => readNumeral true rest
    | c :: rest =>
      if isDigit c then readNumeral false (c :: rest) else (.defect .malformed .malformed, none)

/-- The elements of an array after its opening bracket (`first`) or after an element. -/
def readItems : (fuel : Nat) → (first : Bool) → List Char →
    List Node × Ending × Option (List Char)
  | 0, _, _ => ([], .stopped, none)
  | fuel + 1, first, text =>
    let broken (afterComma : Bool) (d : Defect) := ([], .broken afterComma d d, none)
    let item (text : List Char) :=
      match readValue fuel text with
      | (value, none) => ([value], .stopped, none)
      | (value, some rest) =>
        let (items, ending, after) := readItems fuel false rest
        (value :: items, ending, after)
    match skipSpace text with
    | [] => broken false .unfinished
    | ']' :: rest => ([], .closed, some rest)
    | c :: rest =>
      if first then item (c :: rest)
      else if c = ',' then match skipSpace rest with
        | [] => broken true .unfinished
        | ']' :: _ => broken true .malformed
        | rest => item rest
      else broken false .malformed

/-- The members of an object after its opening brace (`first`) or after a member. -/
def readMembers : (fuel : Nat) → (first : Bool) → List Char →
    List (Option (List Char) × Node) × Ending × Option (List Char)
  | 0, _, _ => ([], .stopped, none)
  | fuel + 1, first, text =>
    let broken (d : Defect) := ([], .broken false d d, none)
    let value (name : Option (List Char)) (text : List Char) :=
      match skipSpace text with
      | [] => ([(name, Node.defect .unfinished .unfinished)], Ending.stopped, none)
      | ':' :: rest => match readValue fuel rest with
        | (value, none) => ([(name, value)], .stopped, none)
        | (value, some rest) =>
          let (members, ending, after) := readMembers fuel false rest
          ((name, value) :: members, ending, after)
      | _ => ([(name, .defect .malformed .malformed)], .stopped, none)
    let member (text : List Char) :=
      match readString text with
      | (.ok name, .ok rest) => value (some name) rest
      | (.error _, .ok rest) => value none rest
      | (.ok _, .error skip) => ([], .broken false skip skip, none)
      | (.error read, .error skip) => ([], .broken false read skip, none)
    match skipSpace text with
    | [] => broken .unfinished
    | '\x7d' :: rest => ([], .closed, some rest)
    | c :: rest =>
      if first then
        if c = '"' then member rest else broken .malformed
      else if c = ',' then match skipSpace rest with
        | [] => broken .unfinished
        | '"' :: rest => member rest
        | _ => broken .malformed
      else broken .malformed

end

/-- A text as one value: the value, and whether only blanks follow it. -/
structure Document where
  root : Node
  clean : Bool

/-- The reading of a text. -/
def Document.ofText (text : List Char) : Document :=
  let (root, rest) := readValue (text.length + 1) text
  ⟨root, rest.any fun r => (skipSpace r).isEmpty⟩

end RequestKeys.Json
