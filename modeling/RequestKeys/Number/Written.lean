import RequestKeys.Number.Nearest
import RequestKeys.Number.Shortest

/-!
# How numbers are written and read

Two ways of writing a double from its shortest digits, and the grammars by which texts are read as
integers and as doubles.
-/

namespace RequestKeys.Number

/-- The sign bit. -/
def isNegative (x : Float) : Bool := x.toBits ≥ 0x8000000000000000

/-- Neither infinite nor a NaN. -/
def isFinite (x : Float) : Bool := (x.toBits.toNat >>> 52) % 0x800 ≠ 0x7FF

/-- The digits of a decimal with the point set, without an exponent: `12`, `0.05`, `1.5`. -/
def positional (d : Decimal) : List Char :=
  let digits := decimalDigits d.digits
  let size : Int := digits.length
  if d.exponent ≥ 0 then digits ++ List.replicate d.exponent.toNat '0'
  else if size + d.exponent > 0 then
    let whole := (size + d.exponent).toNat
    digits.take whole ++ '.' :: digits.drop whole
  else '0' :: '.' :: (List.replicate (-(size + d.exponent)).toNat '0' ++ digits)

/-- A double in positional form: `12`, `0.1`, `-0`, `inf`, `NaN`. -/
def plain (x : Float) : List Char :=
  let sign := if isNegative x then ['-'] else []
  let (m, q) := significand x
  if x.isNaN then ['N', 'a', 'N']
  else if !isFinite x then sign ++ ['i', 'n', 'f']
  else if m = 0 then sign ++ ['0']
  else sign ++ positional (shortest m q)

/-- A finite double as a literal that shows it is no integer: `100.0`, `0.00001`, `1e21`,
`1.5e-7`.  An exponent is written from `1e16` on and below `1e-5`. -/
def literal (x : Float) : List Char :=
  let sign := if isNegative x then ['-'] else []
  let (m, q) := significand x
  if m = 0 then sign ++ ['0', '.', '0']
  else
    let d := shortest m q
    let digits := decimalDigits d.digits
    let point : Int := digits.length + d.exponent
    let body :=
      if -5 < point ∧ point ≤ 16 then
        if d.exponent ≥ 0 then positional d ++ ['.', '0'] else positional d
      else
        let power := point - 1
        let mantissa := match digits with
          | [c] => [c]
          | c :: rest => c :: '.' :: rest
          | [] => []
        mantissa ++ 'e' :: ((if power < 0 then ['-'] else []) ++ decimalDigits power.natAbs)
    sign ++ body

/-! ## Reading -/

/-- An optional sign and the rest; `true` for a minus. -/
def readSign : List Char → Bool × List Char
  | '+' :: rest => (false, rest)
  | '-' :: rest => (true, rest)
  | rest => (false, rest)

/-- An integer: an optional sign and decimal digits. -/
def readInt? (text : List Char) : Option Int :=
  let (negative, digits) := readSign text
  if digits.isEmpty || !digits.all isDigit then none
  else
    let n : Int := digitsValue 10 digits
    some (if negative then -n else n)

/-- An integer between `-2^63` and `2^63 - 1`. -/
def readInt64? (text : List Char) : Option Int :=
  (readInt? text).filter fun n => -9223372036854775808 ≤ n && n ≤ 9223372036854775807

/-- Small letters for capital ones, within ASCII. -/
def smallLetters (text : List Char) : List Char :=
  text.map fun c => if 'A' ≤ c ∧ c ≤ 'Z' then Char.ofNat (c.toNat + 32) else c

/-- An exponent part that fills the whole text; none at all counts as zero. -/
def readExponent? : List Char → Option Int
  | [] => some 0
  | c :: rest => if c = 'e' ∨ c = 'E' then readInt? rest else none

/-- A finite decimal: digits with at most one point, at least one digit, and an exponent. -/
def readDecimal? (text : List Char) : Option Float :=
  let whole := text.takeWhile isDigit
  let afterWhole := text.dropWhile isDigit
  let (fraction, tail) := match afterWhole with
    | '.' :: rest => (rest.takeWhile isDigit, rest.dropWhile isDigit)
    | rest => ([], rest)
  if whole.isEmpty && fraction.isEmpty then none
  else (readExponent? tail).map fun e =>
    nearest (digitsValue 10 (whole ++ fraction)) (e - fraction.length)

/-- A double: an optional sign, then `inf`, `infinity` or `nan` in any case, or a decimal. -/
def readFloat? (text : List Char) : Option Float :=
  let (negative, body) := readSign text
  let word := smallLetters body
  let size : Option Float :=
    if word = ['i', 'n', 'f'] ∨ word = ['i', 'n', 'f', 'i', 'n', 'i', 't', 'y'] then
      some (Float.ofBits 0x7FF0000000000000)
    else if word = ['n', 'a', 'n'] then some (Float.ofBits 0x7FF8000000000000)
    else readDecimal? body
  size.map fun x => if negative then -x else x

end RequestKeys.Number
