import RequestKeys.Pattern.Regex
import RequestKeys.Text.Utf8

/-!
# The size of a compiled expression

Counted repetitions multiply, so a short pattern can stand for a huge automaton.  The size of the
automaton that reads the octets of a text is counted here in memory octets, without building it:
a state takes `stateSize` of them, a labelled edge out of a state with several eight, and an
unlabelled one four.
-/

namespace RequestKeys.Pattern

open Unicode (Ranges)

/-- The memory of a state. -/
def stateSize : Nat := 32

/-- Where a range of characters has to be cut in two so that the octets of its members form a
product of octet ranges: between encodings of different lengths, around the surrogates, and where
the later octets do not run through all their values.  The answer is the last member of the first
part. -/
def cutPoint (a b : Nat) : Option Nat :=
  let ends := [0x7F, 0x7FF, 0xD7FF, 0xDFFF, 0xFFFF]
  match ends.find? fun m => a ≤ m && m < b with
  | some m => some m
  | none =>
    if b ≤ 0x7F then none
    else [0x40, 0x1000, 0x40000].findSome? fun unit =>
      if a / unit = b / unit then none
      else if a % unit ≠ 0 then some ((a / unit + 1) * unit - 1)
      else if (b + 1) % unit ≠ 0 then some (b / unit * unit - 1)
      else none

/-- The products of octet ranges that make up a range of characters. -/
def octetProducts : (fuel : Nat) → Nat → Nat → List (List (UInt8 × UInt8))
  | 0, _, _ => []
  | fuel + 1, a, b =>
    match cutPoint a b with
    | some m => octetProducts fuel a m ++ octetProducts fuel (m + 1) b
    | none =>
      if 0xD800 ≤ a ∧ a ≤ 0xDFFF then []
      else [(Utf8.encodeChar (Char.ofNat a)).zip (Utf8.encodeChar (Char.ofNat b))]

/-- How many first elements two lists share. -/
def commonLength {α : Type} [BEq α] : List α → List α → Nat
  | x :: xs, y :: ys => if x == y then 1 + commonLength xs ys else 0
  | _, _ => 0

/-- The states for products in ascending order, which share those of a common beginning. -/
def productStates : (previous : List (UInt8 × UInt8)) → List (List (UInt8 × UInt8)) → Nat
  | _, [] => 0
  | previous, p :: rest => p.length - commonLength previous p + productStates p rest

/-- The size of a set of characters: one state with an edge for each range within ASCII, or a choice
between the products that make it up. -/
def setSize (set : Ranges) : Nat :=
  if set.isAscii then 2 * stateSize + 8 * set.length
  else
    let products := set.flatMap fun (a, b) => octetProducts 64 a b
    (2 + productStates [] products) * stateSize + 4 * products.length

/-- Whether the expression only matches the empty text. -/
def Regex.isWidthless : Regex → Bool
  | .empty | .position _ => true
  | .capture r => r.isWidthless
  | _ => false

mutual

/-- Whether the expression can match the empty text. -/
def Regex.isNullable : Regex → Bool
  | .empty | .position _ => true
  | .char _ | .oneOf _ => false
  | .sequence parts => allNullable parts
  | .choice parts => anyNullable parts
  | .repetition part min _ => min == 0 || part.isNullable
  | .capture r => r.isNullable

def allNullable : List Regex → Bool
  | [] => true
  | r :: rest => r.isNullable && allNullable rest

def anyNullable : List Regex → Bool
  | [] => false
  | r :: rest => r.isNullable || anyNullable rest

end

/-- The size of `min` to `max` copies of a part: the required copies, and for each further one a
choice whether to go on. -/
def repetitionSize (part : Nat) (nullable : Bool) (min : Nat) (max : Option Nat) : Nat :=
  let choice := stateSize + 8
  match max with
  | none =>
    if min = 0 then (if nullable then part + 2 * choice + stateSize else part + choice)
    else min * part + choice
  | some max =>
    if max = 0 then stateSize
    else if min = max then min * part
    else min * part + (max - min) * (part + choice) + stateSize

mutual

/-- The size of an expression. -/
def Regex.size : Regex → Nat
  | .empty => stateSize
  | .char c => (Utf8.encodeChar c).length * stateSize
  | .oneOf set => setSize set
  | .position _ => stateSize
  | .sequence parts => sequenceSize parts
  | .choice parts => 2 * stateSize + choiceSize parts
  | .repetition part min max =>
    if part.isWidthless then repetitionSize part.size true (Nat.min min 1) (some 1)
    else repetitionSize part.size part.isNullable min max
  | .capture part => 2 * stateSize + part.size

def sequenceSize : List Regex → Nat
  | [] => 0
  | r :: rest => r.size + sequenceSize rest

def choiceSize : List Regex → Nat
  | [] => 0
  | r :: rest => 4 + r.size + choiceSize rest

end

/-- The largest size a compiled pattern may have, ten mebibytes. -/
def maxSize : Nat := 10 * 1024 * 1024

end RequestKeys.Pattern
