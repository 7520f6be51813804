import RequestKeys.Text.Blank
import RequestKeys.Text.Hex

/-!
# Sets of code points

A set is a list of ranges in ascending order that neither overlap nor touch.
-/

namespace RequestKeys.Unicode

/-- The last code point. -/
def lastCodePoint : Nat := 0x10FFFF

/-- First and last members of the ranges of a set. -/
abbrev Ranges := List (Nat × Nat)

namespace Ranges

/-- Joins each range with those that overlap or touch it, `current` being the one under way and
the list sorted. -/
def coalesceFrom (current : Nat × Nat) : List (Nat × Nat) → Ranges
  | [] => [current]
  | (a, b) :: rest =>
    if a ≤ current.2 + 1 then coalesceFrom (current.1, max current.2 b) rest
    else current :: coalesceFrom (a, b) rest

/-- The set of the members of the given ranges, in any order. -/
def normalize (ranges : List (Nat × Nat)) : Ranges :=
  match ranges.mergeSort fun x y => x.1 ≤ y.1 with
  | [] => []
  | r :: rest => coalesceFrom r rest

/-- Membership. -/
def contains (s : Ranges) (n : Nat) : Bool := s.any fun (a, b) => a ≤ n && n ≤ b

/-- Membership of a character. -/
def holds (s : Ranges) (c : Char) : Bool := contains s c.toNat

def union (s t : Ranges) : Ranges :=
  if s.isEmpty then t else if t.isEmpty then s else normalize (s ++ t)

/-- The gaps from `first` on. -/
def gapsFrom (first : Nat) : Ranges → Ranges
  | [] => if first ≤ lastCodePoint then [(first, lastCodePoint)] else []
  | (a, b) :: rest =>
    if first < a then (first, a - 1) :: gapsFrom (b + 1) rest else gapsFrom (b + 1) rest

def complement (s : Ranges) : Ranges := gapsFrom 0 s

def inter (s t : Ranges) : Ranges := complement (union (complement s) (complement t))

def difference (s t : Ranges) : Ranges := inter s (complement t)

def symmetricDifference (s t : Ranges) : Ranges := difference (union s t) (inter s t)

/-- No member above U+007F. -/
def isAscii (s : Ranges) : Bool := s.all fun (_, b) => b ≤ 0x7F

/-- How many members there are. -/
def size (s : Ranges) : Nat := s.foldl (fun n (a, b) => n + (b + 1 - a)) 0

end Ranges

/-- The words of a table. -/
def tableWords (table : String) : List (List Char) := Blank.words table.toList

/-- The reading of a hexadecimal code point or of two with a hyphen between them. -/
def readRange (word : List Char) : Nat × Nat :=
  let first := digitsValue 16 (word.takeWhile (· ≠ '-'))
  match word.dropWhile (· ≠ '-') with
  | [] => (first, first)
  | _ :: last => (first, digitsValue 16 last)

/-- The set that a table of ascending ranges lists. -/
def readRanges (table : String) : Ranges := (tableWords table).map readRange

end RequestKeys.Unicode
