import RequestKeys.Text.Hex

/-!
# The shortest decimal that reads back

`shortest m q` is the decimal with the fewest digits among those that round to the double `m · 2^q`,
and of these the one nearest to it.
-/

namespace RequestKeys.Number

/-- A positive decimal `digits · 10^exponent`. -/
structure Decimal where
  digits : Nat
  exponent : Int

/-- The significand and the binary exponent of the absolute value of a finite double. -/
def significand (x : Float) : Nat × Int :=
  let bits := x.toBits.toNat
  let fraction : Nat := bits % (1 <<< 52)
  let biased : Nat := (bits >>> 52) % 0x800
  if biased = 0 then (fraction, -1074) else (fraction + (1 <<< 52), (biased : Int) - 1075)

/-- The reals that round to `m · 2^q`, in units of `2^(q-2)`: the ends of the interval, which belong
to it when `m` is even.  Below a power of two the neighbour is only half a unit away. -/
structure Basin where
  low : Nat
  middle : Nat
  high : Nat
  closed : Bool
  unit : Int

def Basin.of (m : Nat) (q : Int) : Basin :=
  { low := if m = 1 <<< 52 ∧ q > -1074 then 4 * m - 1 else 4 * m - 2
    middle := 4 * m
    high := 4 * m + 2
    closed := m % 2 == 0
    unit := q - 2 }

/-- A basin scaled by a common factor so that the multiples of `10^p` in it are multiples of the
natural number `step`. -/
structure Grid where
  low : Nat
  middle : Nat
  high : Nat
  closed : Bool
  step : Nat

def Basin.grid (b : Basin) (p : Int) : Grid :=
  let scale := Nat.pow 10 (-p).toNat <<< b.unit.toNat
  { low := b.low * scale
    middle := b.middle * scale
    high := b.high * scale
    closed := b.closed
    step := Nat.pow 10 p.toNat <<< (-b.unit).toNat }

/-- Whether the `k`-th multiple of the step lies in the basin. -/
def Grid.holds (g : Grid) (k : Nat) : Bool :=
  let x := k * g.step
  if g.closed then g.low ≤ x && x ≤ g.high else g.low < x && x < g.high

/-- Of the two multiples next to the middle, the one in the basin that is nearer to it. -/
def Grid.hit (g : Grid) : Option Nat :=
  let k := g.middle / g.step
  let below := g.middle - k * g.step
  let above := g.step - below
  match g.holds k && k ≠ 0, g.holds (k + 1) with
  | true, true => some (if below < above || (below == above && k % 2 == 0) then k else k + 1)
  | true, false => some k
  | false, true => some (k + 1)
  | false, false => none

/-- The exponent of the leading decimal digit of `m · 2^q`. -/
def leadingExponent (m : Nat) (q : Int) : Int :=
  let n := ((m <<< q.toNat) * Nat.pow 10 400) >>> (-q).toNat
  ((decimalDigits n).length : Int) - 401

/-- The first hit among the grids of `count`, `count + 1`, … digits. -/
def search (b : Basin) (top : Int) : (fuel count : Nat) → Decimal
  | 0, _ => ⟨0, 0⟩
  | fuel + 1, count =>
    let p := top - count + 1
    match (b.grid p).hit with
    | some k => ⟨k, p⟩
    | none => search b top fuel (count + 1)

/-- A decimal without trailing zeros. -/
def trimZeros : (fuel : Nat) → Decimal → Decimal
  | 0, d => d
  | fuel + 1, d =>
    if d.digits % 10 = 0 ∧ d.digits ≠ 0 then trimZeros fuel ⟨d.digits / 10, d.exponent + 1⟩ else d

/-- The shortest decimal for `m · 2^q` with `m` positive.  Seventeen digits always suffice. -/
def shortest (m : Nat) (q : Int) : Decimal :=
  trimZeros 20 (search (.of m q) (leadingExponent m q) 18 1)

end RequestKeys.Number
