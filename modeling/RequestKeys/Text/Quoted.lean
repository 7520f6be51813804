import RequestKeys.Unicode.Property

/-!
# Quoted text

A text between double quotes in which every character can be seen: quotes, backslashes and the
usual controls have short escapes, and characters without a shape of their own or that would attach
to the one before are written by number.
-/

namespace RequestKeys.Quoted

/-- Whether a character is written by its number. -/
def isHidden (c : Char) : Bool :=
  if c.toNat < 0x7F then c.toNat < 0x20
  else Unicode.graphemeExtenders.holds c || !Unicode.printable.holds c

/-- A character as it stands between quotes. -/
def quoteChar (c : Char) : List Char :=
  if c = '"' then ['\\', '"']
  else if c = '\\' then ['\\', '\\']
  else if c = '\n' then ['\\', 'n']
  else if c = '\r' then ['\\', 'r']
  else if c = '\t' then ['\\', 't']
  else if c = '\x00' then ['\\', '0']
  else if isHidden c then '\\' :: 'u' :: '\x7b' :: (hexDigits c.toNat ++ ['\x7d'])
  else [c]

/-- The quoted form of a text. -/
def quote (text : List Char) : List Char := '"' :: (text.flatMap quoteChar ++ ['"'])

end RequestKeys.Quoted
