import RequestKeys.Text.Percent
import RequestKeys.Text.Split

/-!
# Request targets

The path and the query of a request target, in origin form (`/a/b?x=1`) or absolute form
(`https://host/a/b?x=1`).
-/

namespace RequestKeys

/-- A target: its path, decoded, and its query as received. -/
structure Target where
  path : List Char
  query : Option (List Char)
  deriving DecidableEq

namespace Target

/-- A letter followed by letters, digits, plus signs, hyphens and points. -/
def isScheme : List Char → Bool
  | [] => false
  | c :: rest =>
    c.isAlpha && rest.all fun c => c.isAlphanum || c == '+' || c == '-' || c == '.'

/-- What follows the scheme and the authority, if the text starts with a scheme. -/
def dropAuthority (text : List Char) : List Char :=
  match Split.cutAt [':', '/', '/'] text with
  | none => text
  | some (scheme, rest) => if isScheme scheme then rest.dropWhile (· ≠ '/') else text

/-- The target that a text spells: the fragment is dropped, the query begins after the first question
mark, and the path is decoded.  Every text spells one. -/
def parse (text : List Char) : Target :=
  let text := Split.upTo '#' text
  match Split.cut '?' text with
  | some (path, query) => ⟨Percent.decode (dropAuthority path), some query⟩
  | none => ⟨Percent.decode (dropAuthority text), none⟩

/-! ## Queries -/

/-- The name and the value of a piece of a query, which lacks a value if there is no equals sign. -/
def pairOf (piece : List Char) : List Char × List Char :=
  match Split.cut '=' piece with
  | some (name, value) => (Percent.decodeForm name, Percent.decodeForm value)
  | none => (Percent.decodeForm piece, [])

/-- The names and values of a query, in order; empty pieces are none. -/
def pairs (query : List Char) : List (List Char × List Char) :=
  ((Split.pieces '&' query).filter (!·.isEmpty)).map pairOf

/-- The query in which the given names have the given values. -/
def ofPairs (pairs : List (List Char × List Char)) : List Char :=
  Split.join '&' (pairs.map fun (name, value) =>
    Percent.encodeForm name ++ '=' :: Percent.encodeForm value)

/-- The values of a parameter, in order. -/
def values (t : Target) (name : List Char) : List (List Char) :=
  match t.query with
  | none => []
  | some query => ((pairs query).filter (·.1 = name)).map (·.2)

end Target

end RequestKeys
