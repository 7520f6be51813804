import RequestKeys.Config.Value

/-!
# The environment layer

Variables whose names begin with the mark of the program, in any case, set the value of the rest of
their name in small letters.
-/

namespace RequestKeys.Config

/-- Environment variables by name. -/
abbrev Environment := List (List Char × List Char)

/-- How the names of variables begin, in small letters. -/
def variableStart : List Char := ['s', 'l', 'o', 'k', 'e', 'y', '_']

/-- A name in small letters.  The kelvin sign is the one character beyond ASCII whose small letter is
within it. -/
def smallName (name : List Char) : List Char :=
  name.map fun c =>
    if 'A' ≤ c ∧ c ≤ 'Z' then Char.ofNat (c.toNat + 32) else if c = '\u212A' then 'k' else c

/-- The key that a variable sets. -/
def variableKey? (name : List Char) : Option (List Char) :=
  let name := smallName name
  if variableStart.isPrefixOf name then some (name.drop variableStart.length) else none

/-- The value of a variable: a truth value in any case, else an integer, else a double, else the
text. -/
def Value.ofVariable (text : List Char) : Value :=
  match String.ofList (Number.smallLetters text) with
  | "true" => .bool true
  | "false" => .bool false
  | _ => match Number.readInt64? text with
    | some n => .integer n
    | none => match Number.readFloat? text with
      | some x => .real x
      | none => .text text

/-- The layer that an environment makes. -/
def Environment.layer (e : Environment) : Table :=
  e.filterMap fun (name, text) => (variableKey? name).map fun key => (key, .ofVariable text)

end RequestKeys.Config
