import RequestKeys.Number.Nearest

/-!
# JSON numerals

A numeral is an integer if it is written as one and fits into 64 bits, with or without sign, and
else a double.  Doubles are computed from the leading digits, as many as fit into 64 bits, by one
multiplication or division by a power of ten, which is fast and may miss the nearest double by its
last bit.
-/

namespace RequestKeys.Json

/-- A numeral as written. -/
structure Numeral where
  negative : Bool
  whole : List Char
  fraction : List Char
  exponent : Option (Bool × List Char)

/-- What a numeral stands for. -/
inductive Quantity where
  | integer (n : Int)
  | real (x : Float)

/-- The largest significand. -/
def maxSignificand : Nat := 0xFFFFFFFFFFFFFFFF

/-- As many digits as fit appended to a significand, and how many are left. -/
def appendDigits : (significand : Nat) → List Char → Nat × Nat
  | s, [] => (s, 0)
  | s, c :: rest =>
    let next := 10 * s + (hexValue? c).getD 0
    if next ≤ maxSignificand then appendDigits next rest else (s, rest.length + 1)

/-- A power of ten that is a double. -/
def powerOfTen (e : Nat) : Float := Number.nearest 1 e

/-- `s · 10^e`, unless it is too large.  Divisors beyond `10^308` are taken apart. -/
def scaleReal? : (fuel : Nat) → Float → Int → Option Float
  | 0, x, _ => some x
  | fuel + 1, x, e =>
    if e.natAbs ≤ 308 then
      if e ≥ 0 then
        let y := x * powerOfTen e.toNat
        if y.isInf then none else some y
      else some (x / powerOfTen e.natAbs)
    else if x == 0.0 then some x
    else if e ≥ 0 then none
    else scaleReal? fuel (x / powerOfTen 308) (e + 308)

/-- The largest exponent. -/
def maxExponent : Nat := 0x7FFFFFFF

namespace Numeral

/-- The value of a numeral that is read as a double. -/
def real? (n : Numeral) : Option Float :=
  let (significand, leftOver) := appendDigits 0 n.whole
  let (significand, dropped) := appendDigits significand n.fraction
  let scale : Int := leftOver - (n.fraction.length - dropped : Nat)
  let size : Option Float := match n.exponent with
    | none => scaleReal? 8 significand.toUInt64.toFloat scale
    | some (down, digits) =>
      let e := digitsValue 10 digits
      if e > maxExponent then
        if significand ≠ 0 && !down then none else some 0.0
      else scaleReal? 8 significand.toUInt64.toFloat (if down then scale - e else scale + e)
  size.map fun x => if n.negative then -x else x

/-- The value of a numeral, unless it is too large.  Minus zero is no integer. -/
def quantity? (n : Numeral) : Option Quantity :=
  let size := digitsValue 10 n.whole
  if n.fraction.isEmpty && n.exponent.isNone && size ≤ maxSignificand then
    if !n.negative then some (.integer size)
    else if 0 < size && size ≤ 0x8000000000000000 then some (.integer (-(size : Int)))
    else some (.real (-size.toUInt64.toFloat))
  else n.real?.map .real

end Numeral

end RequestKeys.Json
