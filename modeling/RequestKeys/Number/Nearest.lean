import RequestKeys.Text.Hex

/-!
# The nearest binary64 number to a decimal

`nearest m e` is the double next to `m · 10^e`, a tie going to the even significand, computed in
exact arithmetic.
-/

namespace RequestKeys.Number

/-- `num / den` rounded to the nearest natural number, a tie going to the even one. -/
def roundDiv (num den : Nat) : Nat :=
  let q := num / den
  let twice := 2 * (num % den)
  if twice < den then q else if twice > den then q + 1 else q + q % 2

/-- `num · 2^(-s) / den` as a quotient of natural numbers. -/
def scaled (num den : Nat) (s : Int) : Nat × Nat :=
  if s ≥ 0 then (num, den <<< s.toNat) else (num <<< (-s).toNat, den)

/-- The bits of the double nearest to `num / den`.  The exponent `s` of the unit in the last place
is found from the logarithms, which determine it up to one; adding the significand with its leading
bit to the shifted exponent carries into the exponent when rounding overflows. -/
def ratioBits (num den : Nat) : UInt64 :=
  if num = 0 then 0
  else
    let estimate : Int := (num.log2 : Int) - den.log2
    let (n, d) := scaled num den estimate
    let top := if n < d then estimate - 1 else estimate
    let s := max (top - 52) (-1074)
    let (n, d) := scaled num den s
    let bits := ((s + 1074).toNat <<< 52) + roundDiv n d
    if bits ≥ 0x7FF0000000000000 then 0x7FF0000000000000 else bits.toUInt64

/-- The double nearest to `m · 10^e`.  Decimals beyond the range of exponents are decided by their
size alone. -/
def nearest (m : Nat) (e : Int) : Float :=
  let size := (decimalDigits m).length + e
  if m = 0 then 0.0
  else if size > 310 then Float.ofBits 0x7FF0000000000000
  else if size < -330 then 0.0
  else if e ≥ 0 then Float.ofBits (ratioBits (m * Nat.pow 10 e.toNat) 1)
  else Float.ofBits (ratioBits m (Nat.pow 10 (-e).toNat))

end RequestKeys.Number
