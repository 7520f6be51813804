/-!
# UTF-8

Writing characters as octets and reading octets back.  Reading never fails: every maximal
stretch of octets that starts a character without completing it becomes one U+FFFD.
-/

namespace RequestKeys.Utf8

/-- What stands for octets that are no character. -/
def replacement : Char := '\uFFFD'

/-- The octets of one character. -/
def encodeChar (c : Char) : List UInt8 :=
  let n := c.toNat
  if n < 0x80 then [n.toUInt8]
  else if n < 0x800 then [(0xC0 + n / 0x40).toUInt8, (0x80 + n % 0x40).toUInt8]
  else if n < 0x10000 then
    [(0xE0 + n / 0x1000).toUInt8, (0x80 + n / 0x40 % 0x40).toUInt8, (0x80 + n % 0x40).toUInt8]
  else
    [(0xF0 + n / 0x40000).toUInt8, (0x80 + n / 0x1000 % 0x40).toUInt8,
      (0x80 + n / 0x40 % 0x40).toUInt8, (0x80 + n % 0x40).toUInt8]

/-- The octets of a text. -/
def encode (text : List Char) : List UInt8 := text.flatMap encodeChar

/-- A character of which some octets have been read: the bits so far, how many octets are owed,
and the range in which the next one has to lie. -/
structure Pending where
  bits : Nat
  owed : Nat
  low : UInt8
  high : UInt8

/-- What a first octet says. -/
inductive Lead where
  | complete (c : Char)
  | opens (p : Pending)
  | invalid

/-- The reading of a first octet.  The narrowed second ranges after `E0`, `ED`, `F0` and `F4` keep
out overlong forms, surrogates and numbers above U+10FFFF. -/
def lead (b : UInt8) : Lead :=
  if b < 0x80 then .complete (Char.ofNat b.toNat)
  else if b < 0xC2 then .invalid
  else if b < 0xE0 then .opens ⟨b.toNat - 0xC0, 1, 0x80, 0xBF⟩
  else if b < 0xF0 then
    .opens ⟨b.toNat - 0xE0, 2, if b = 0xE0 then 0xA0 else 0x80, if b = 0xED then 0x9F else 0xBF⟩
  else if b < 0xF5 then
    .opens ⟨b.toNat - 0xF0, 3, if b = 0xF0 then 0x90 else 0x80, if b = 0xF4 then 0x8F else 0xBF⟩
  else .invalid

/-- Whether `b` may come next in `p`. -/
def Pending.accepts (p : Pending) (b : UInt8) : Bool := p.low ≤ b && b ≤ p.high

/-- The bits of `p` with those of a continuation octet appended. -/
def Pending.extend (p : Pending) (b : UInt8) : Nat := p.bits * 0x40 + (b.toNat - 0x80)

/-- Decoding with a character begun (`some p`) or between characters (`none`). -/
def decodeFrom : Option Pending → List UInt8 → List Char
  | none, [] => []
  | some _, [] => [replacement]
  | none, b :: rest => match lead b with
    | .complete c => c :: decodeFrom none rest
    | .opens p => decodeFrom (some p) rest
    | .invalid => replacement :: decodeFrom none rest
  | some p, b :: rest =>
    if p.accepts b then
      if p.owed ≤ 1 then Char.ofNat (p.extend b) :: decodeFrom none rest
      else decodeFrom (some ⟨p.extend b, p.owed - 1, 0x80, 0xBF⟩) rest
    else replacement :: match lead b with
      | .complete c => c :: decodeFrom none rest
      | .opens q => decodeFrom (some q) rest
      | .invalid => replacement :: decodeFrom none rest

/-- The text that octets spell, with U+FFFD where they spell none. -/
def decode (octets : List UInt8) : List Char := decodeFrom none octets

end RequestKeys.Utf8
