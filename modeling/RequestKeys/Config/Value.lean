import RequestKeys.Json.Value
import RequestKeys.Number.Written

/-!
# Configuration values

The values that files and environment variables put into a configuration, whatever their format, and
their conversion into what is wanted.
-/

namespace RequestKeys.Config

/-- A value.  The names of a table are distinct. -/
inductive Value where
  | nil
  | bool (b : Bool)
  | integer (n : Int)
  | real (x : Float)
  | text (t : List Char)
  | list (items : List Value)
  | table (entries : List (List Char × Value))

/-- The entries of a table. -/
abbrev Table := List (List Char × Value)

/-- Why a configuration cannot be loaded: the file is missing or of no known format, it does not
parse, a value has no reading as what is wanted, a rule lacks a field, or the values do not have the
structure of settings. -/
inductive Failure where
  | foreign
  | fileParse
  | type
  | notFound
  | message
  deriving DecidableEq

/-- The name of a kind of failure. -/
def Failure.name : Failure → String
  | foreign => "Foreign"
  | fileParse => "FileParse"
  | type => "Type"
  | notFound => "NotFound"
  | message => "Message"

/-- A value as a truth value: numbers are true unless they are zero, and four words for each truth
value are known in any case. -/
def Value.toBool : Value → Except Failure Bool
  | .bool b => .ok b
  | .integer n => .ok (n != 0)
  | .real x => .ok (x != 0.0)
  | .text t => match String.ofList (Number.smallLetters t) with
    | "1" | "true" | "on" | "yes" => .ok true
    | "0" | "false" | "off" | "no" => .ok false
    | _ => .error .type
  | _ => .error .type

/-- A value as a text: scalars are written out. -/
def Value.toText : Value → Except Failure (List Char)
  | .text t => .ok t
  | .bool b => .ok (if b then ['t', 'r', 'u', 'e'] else ['f', 'a', 'l', 's', 'e'])
  | .integer n => .ok (Json.writeInt n)
  | .real x => .ok (Number.plain x)
  | _ => .error .type

/-! ## JSON files -/

mutual

/-- A JSON value as a configuration value. -/
def Value.ofJson : Json.Value → Value
  | .null => .nil
  | .bool b => .bool b
  | .integer n => .integer n
  | .real x => .real x
  | .string t => .text t
  | .array items => .list (valuesOfJson items)
  | .object members => .table (entriesOfJson members)

def valuesOfJson : List Json.Value → List Value
  | [] => []
  | v :: rest => .ofJson v :: valuesOfJson rest

def entriesOfJson : List (List Char × Json.Value) → Table
  | [] => []
  | (name, v) :: rest => (name, .ofJson v) :: entriesOfJson rest

end

/-- The table that a JSON text spells. -/
def readJson? (text : List Char) : Option Table :=
  match Json.Value.ofText? text with
  | some (.object members) => some (entriesOfJson members)
  | _ => none

end RequestKeys.Config
