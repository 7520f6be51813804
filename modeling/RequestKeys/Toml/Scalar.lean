import RequestKeys.Config.Value
import RequestKeys.Number.Written
import RequestKeys.Text.Split

/-!
# TOML scalars

Strings, numbers, truth values and times.  A reader takes the text ahead and gives what it has read
with the text after it.
-/

namespace RequestKeys.Toml

open Config (Value)

/-- Blanks within a line. -/
def isSpace (c : Char) : Bool := c == ' ' || c == '\t'

/-- Controls, none of which may stand in a comment or a string; a tab is not counted. -/
def isControl (c : Char) : Bool := (c.toNat < 0x20 && c ≠ '\t') || c.toNat == 0x7F

/-- The rest of a text after a line break, if there is one ahead. -/
def lineBreak? : List Char → Option (List Char)
  | '\n' :: rest => some rest
  | '\r' :: '\n' :: rest => some rest
  | _ => none

/-! ## Strings -/

/-- The character with the given number, unless it is a surrogate or too large. -/
def charOfNumber? (n : Nat) : Option Char :=
  if h : n.isValidChar then some (Char.ofNatAux n h) else none

/-- A character given by exactly `size` hexadecimal digits. -/
def readNumbered (size : Nat) (text : List Char) : Option (Char × List Char) :=
  let digits := text.take size
  if digits.length = size ∧ digits.all isHexDigit then
    (charOfNumber? (digitsValue 16 digits)).map fun c => (c, text.drop size)
  else none

/-- What follows a backslash in a basic string. -/
def readEscape : List Char → Option (Char × List Char)
  | 'b' :: rest => some ('\x08', rest)
  | 't' :: rest => some ('\t', rest)
  | 'n' :: rest => some ('\n', rest)
  | 'f' :: rest => some ('\x0c', rest)
  | 'r' :: rest => some ('\r', rest)
  | 'e' :: rest => some ('\x1b', rest)
  | '"' :: rest => some ('"', rest)
  | '\\' :: rest => some ('\\', rest)
  | 'x' :: rest => readNumbered 2 rest
  | 'u' :: rest => readNumbered 4 rest
  | 'U' :: rest => readNumbered 8 rest
  | _ => none

/-- A basic string after its opening quote. -/
def readBasic : (fuel : Nat) → List Char → Option (List Char × List Char)
  | 0, _ => none
  | fuel + 1, text => match text with
    | [] => none
    | '"' :: rest => some ([], rest)
    | '\\' :: rest => do
      let (c, rest) ← readEscape rest
      let (tail, rest) ← readBasic fuel rest
      some (c :: tail, rest)
    | c :: rest =>
      if isControl c then none
      else do
        let (tail, rest) ← readBasic fuel rest
        some (c :: tail, rest)

/-- A literal string after its opening quote. -/
def readLiteral : List Char → Option (List Char × List Char)
  | [] => none
  | '\'' :: rest => some ([], rest)
  | c :: rest =>
    if isControl c then none
    else do
      let (tail, rest) ← readLiteral rest
      some (c :: tail, rest)

/-- The text after a line-ending backslash: blanks and line breaks are passed over, and there has to
be a line break before anything else. -/
def trimBreak (text : List Char) : Option (List Char) :=
  let afterBlanks := text.dropWhile isSpace
  (lineBreak? afterBlanks).map fun rest =>
    rest.dropWhile fun c => isSpace c || c == '\n' || c == '\r'

/-- Three quotes close a string; up to two more before them belong to it. -/
def closing? (quote : Char) (text : List Char) : Option (List Char × List Char) :=
  let quotes := text.takeWhile (· = quote)
  if 3 ≤ quotes.length then
    let extra := min (quotes.length - 3) 2
    some (List.replicate extra quote, text.drop (extra + 3))
  else none

/-- A string of several lines after its opening quotes; only a basic one, between double quotes, has
escapes. -/
def readMultiLine (quote : Char) : (fuel : Nat) → List Char → Option (List Char × List Char)
  | 0, _ => none
  | fuel + 1, text => match closing? quote text with
    | some result => some result
    | none => match text with
      | [] => none
      | c :: rest =>
        if c = '\\' ∧ quote = '"' then match trimBreak rest with
          | some rest => readMultiLine quote fuel rest
          | none => do
            let (c, rest) ← readEscape rest
            let (tail, rest) ← readMultiLine quote fuel rest
            some (c :: tail, rest)
        else match lineBreak? text with
          | some rest => do
            let (tail, rest) ← readMultiLine quote fuel rest
            some ('\n' :: tail, rest)
          | none =>
            if isControl c then none
            else do
              let (tail, rest) ← readMultiLine quote fuel rest
              some (c :: tail, rest)

/-- A line break right after the opening quotes is no part of a string. -/
def dropFirstBreak (text : List Char) : List Char := (lineBreak? text).getD text

/-- A string of any kind, whose opening quote is ahead. -/
def readString (text : List Char) : Option (List Char × List Char) :=
  match text with
  | '"' :: '"' :: '"' :: rest => readMultiLine '"' (rest.length + 1) (dropFirstBreak rest)
  | '\'' :: '\'' :: '\'' :: rest => readMultiLine '\'' (rest.length + 1) (dropFirstBreak rest)
  | '"' :: rest => readBasic (rest.length + 1) rest
  | '\'' :: rest => readLiteral rest
  | _ => none

/-! ## Numbers -/

/-- Digits between which single underscores may stand; `none` if there is anything else. -/
def digitGroup? (isDigit : Char → Bool) (text : List Char) : Option (List Char) :=
  let groups := Split.pieces '_' text
  if groups.all fun g => !g.isEmpty && g.all isDigit then some groups.flatten else none

/-- Integers have 64 bits with sign. -/
def inRange (n : Int) : Option Int :=
  if -0x8000000000000000 ≤ n ∧ n < 0x8000000000000000 then some n else none

/-- Decimal digits without a leading zero. -/
def decimalDigits? (text : List Char) : Option (List Char) :=
  (digitGroup? isDigit text).filter fun digits => digits.length == 1 || digits.head? != some '0'

/-- An integer: decimal with an optional sign, or hexadecimal, octal or binary without. -/
def integer? (word : List Char) : Option Int :=
  match word with
  | '0' :: 'x' :: digits => do inRange (digitsValue 16 (← digitGroup? isHexDigit digits))
  | '0' :: 'o' :: digits => do
    inRange (digitsValue 8 (← digitGroup? (fun c => '0' ≤ c && c ≤ '7') digits))
  | '0' :: 'b' :: digits => do
    inRange (digitsValue 2 (← digitGroup? (fun c => c == '0' || c == '1') digits))
  | _ => do
    let (negative, digits) := Number.readSign word
    let n : Int := digitsValue 10 (← decimalDigits? digits)
    inRange (if negative then -n else n)

/-- The exponent of a float; leading zeros are fine. -/
def exponent? (text : List Char) : Option Int := do
  let (negative, digits) := Number.readSign text
  let n : Int := digitsValue 10 (← digitGroup? isDigit digits)
  some (if negative then -n else n)

/-- A float: a decimal with a fraction, an exponent or both, or one of the words `inf` and `nan`,
with an optional sign.  A decimal beyond all doubles is none. -/
def float? (word : List Char) : Option Float := do
  let (negative, body) := Number.readSign word
  let size ←
    if body = ['i', 'n', 'f'] then some (Float.ofBits 0x7FF0000000000000)
    else if body = ['n', 'a', 'n'] then some (Float.ofBits 0x7FF8000000000000)
    else
      let isMark (c : Char) := c == 'e' || c == 'E'
      let mantissa := body.takeWhile (!isMark ·)
      let e ← match body.dropWhile (!isMark ·) with
        | [] => some 0
        | _ :: rest => exponent? rest
      let (whole, fraction) ← match Split.cut '.' mantissa with
        | some (whole, fraction) => (digitGroup? isDigit fraction).map fun f => (whole, f)
        | none => if mantissa.length = body.length then none else some (mantissa, [])
      let whole ← decimalDigits? whole
      let x := Number.nearest (digitsValue 10 (whole ++ fraction)) (e - fraction.length)
      if x.isInf then none else some x
  some (if negative then -size else size)

/-! ## Times -/

/-- Exactly `size` decimal digits. -/
def readDigits (size : Nat) (text : List Char) : Option (Nat × List Char) :=
  let digits := text.take size
  if digits.length = size ∧ digits.all isDigit then some (digitsValue 10 digits, text.drop size)
  else none

/-- A character. -/
def readChar (p : Char → Bool) : List Char → Option (Char × List Char)
  | c :: rest => if p c then some (c, rest) else none
  | [] => none

def isLeapYear (year : Nat) : Bool := (year % 4 == 0 && year % 100 != 0) || year % 400 == 0

/-- The number of days of a month. -/
def daysIn (year month : Nat) : Nat :=
  if month = 2 then (if isLeapYear year then 29 else 28)
  else if month = 4 ∨ month = 6 ∨ month = 9 ∨ month = 11 then 30
  else 31

/-- A number with at least `width` digits. -/
def padded (width n : Nat) : List Char :=
  let digits := decimalDigits n
  List.replicate (width - digits.length) '0' ++ digits

/-- A date, written the way it is spelled. -/
def readDate (text : List Char) : Option (List Char × List Char) := do
  let (year, rest) ← readDigits 4 text
  let (_, rest) ← readChar (· == '-') rest
  let (month, rest) ← readDigits 2 rest
  let (_, rest) ← readChar (· == '-') rest
  let (day, rest) ← readDigits 2 rest
  guard (1 ≤ month ∧ month ≤ 12 ∧ 1 ≤ day ∧ day ≤ daysIn year month)
  some (padded 4 year ++ '-' :: padded 2 month ++ '-' :: padded 2 day, rest)

/-- A fraction of a second after its point, to nine places, without trailing zeros. -/
def readFraction (text : List Char) : Option (List Char × List Char) :=
  let digits := text.takeWhile isDigit
  if digits.isEmpty then none
  else
    let kept := ((digits.take 9).reverse.dropWhile (· = '0')).reverse
    some (if kept.isEmpty then ['0'] else kept, text.dropWhile isDigit)

/-- A time of day; the seconds may be missing, and may have a fraction. -/
def readTime (text : List Char) : Option (List Char × List Char) := do
  let (hour, rest) ← readDigits 2 text
  let (_, rest) ← readChar (· == ':') rest
  let (minute, rest) ← readDigits 2 rest
  guard (hour ≤ 23 ∧ minute ≤ 59)
  let start := padded 2 hour ++ ':' :: padded 2 minute
  match rest with
  | ':' :: rest =>
    let (second, rest) ← readDigits 2 rest
    guard (second ≤ 60)
    let whole := start ++ ':' :: padded 2 second
    match rest with
    | '.' :: rest =>
      let (fraction, rest) ← readFraction rest
      some (whole ++ '.' :: fraction, rest)
    | _ => some (whole, rest)
  | _ => some (start, rest)

/-- An offset from universal time, which may be missing. -/
def readOffset : List Char → Option (List Char × List Char)
  | 'Z' :: rest | 'z' :: rest => some (['Z'], rest)
  | c :: rest =>
    if c = '+' ∨ c = '-' then do
      let (hour, rest) ← readDigits 2 rest
      let (_, rest) ← readChar (· == ':') rest
      let (minute, rest) ← readDigits 2 rest
      guard (hour ≤ 23 ∧ minute ≤ 59)
      let sign := if c = '-' ∧ (hour ≠ 0 ∨ minute ≠ 0) then '-' else '+'
      some (sign :: (padded 2 hour ++ ':' :: padded 2 minute), rest)
    else some ([], c :: rest)
  | [] => some ([], [])

/-- A date, a time, or a date with a time and perhaps an offset, in its usual spelling. -/
def time? (word : List Char) : Option (List Char) :=
  match readDate word with
  | some (date, []) => some date
  | some (date, c :: rest) =>
    if c = 'T' ∨ c = 't' ∨ c = ' ' then
      match readTime rest with
      | some (time, rest) => match readOffset rest with
        | some (offset, []) => some (date ++ 'T' :: time ++ offset)
        | _ => none
      | none => none
    else none
  | none => match readTime word with
    | some (time, []) => some time
    | _ => none

/-! ## Words -/

/-- What may stand in a number, a truth value or a time. -/
def isWordChar (c : Char) : Bool :=
  c.isAlphanum || c == '_' || c == '+' || c == '-' || c == '.' || c == ':'

/-- The word ahead.  A date and a time with one space between them are one word. -/
def readWord (text : List Char) : List Char × List Char :=
  let word := text.takeWhile isWordChar
  let rest := text.dropWhile isWordChar
  match rest with
  | ' ' :: c :: _ =>
    if isDigit c && (readDate word).any (·.2.isEmpty) then
      let more := rest.drop 1
      (word ++ ' ' :: more.takeWhile isWordChar, more.dropWhile isWordChar)
    else (word, rest)
  | _ => (word, rest)

/-- What a word stands for. -/
def wordValue? (word : List Char) : Option Value :=
  match String.ofList word with
  | "true" => some (.bool true)
  | "false" => some (.bool false)
  | _ =>
    if let some n := integer? word then some (.integer n)
    else if let some x := float? word then some (.real x)
    else (time? word).map .text

/-- A string, or another scalar. -/
def readScalar (text : List Char) : Option (Value × List Char) :=
  match text with
  | '"' :: _ | '\'' :: _ => (readString text).map fun (t, rest) => (.text t, rest)
  | _ =>
    let (word, rest) := readWord text
    (wordValue? word).map fun v => (v, rest)

end RequestKeys.Toml
