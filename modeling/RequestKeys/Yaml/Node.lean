import RequestKeys.Config.Value

/-!
# YAML nodes

The values of a YAML document, how plain scalars get theirs, and what they are as configuration
values.
-/

namespace RequestKeys.Yaml

open Config (Value)

/-- A node.  A number with a point or an exponent is kept as it is written. -/
inductive Node where
  | null
  | bool (b : Bool)
  | integer (n : Int)
  | real (written : List Char)
  | text (t : List Char)
  | sequence (items : List Node)
  | mapping (entries : List (Node × Node))

/-- A tag of the core schema, or any other. -/
inductive Tag where
  | bool
  | int
  | float
  | null
  | other
  deriving DecidableEq

/-- A 64-bit integer in the given base, with an optional sign. -/
def integerIn? (base : Nat) (isDigit : Char → Bool) (text : List Char) : Option Int :=
  let (negative, digits) := Number.readSign text
  if digits.isEmpty || !digits.all isDigit then none
  else
    let size : Int := digitsValue base digits
    let n := if negative then -size else size
    if -0x8000000000000000 ≤ n ∧ n < 0x8000000000000000 then some n else none

/-- An integer: decimal, or hexadecimal or octal after `0x` or `0o`. -/
def integer? (text : List Char) : Option Int :=
  match text with
  | '0' :: 'x' :: digits => integerIn? 16 isHexDigit digits
  | '0' :: 'o' :: digits => integerIn? 8 (fun c => '0' ≤ c && c ≤ '7') digits
  | '+' :: rest => match Number.readInt64? rest with
    | some n => some n
    | none => Number.readInt64? text
  | _ => Number.readInt64? text

/-- The spellings of infinity and of the value that is no number. -/
def specialReals : List String :=
  [".inf", ".Inf", ".INF", "+.inf", "+.Inf", "+.INF", "-.inf", "-.Inf", "-.INF", ".nan", ".NaN",
    ".NAN"]

/-- Whether a text is a number that is no integer: one of the special spellings, or a decimal with at
least one digit. -/
def isReal (text : List Char) : Bool :=
  specialReals.contains (String.ofList text) ||
    (text.any isDigit && (Number.readFloat? text).isSome)

/-- The node of a plain scalar without a tag. -/
def Node.ofPlain (text : List Char) : Node :=
  if let some n := integer? text then .integer n
  else match String.ofList text with
    | "" | "~" | "null" => .null
    | "true" => .bool true
    | "false" => .bool false
    | _ => if isReal text then .real text else .text text

/-- The node of a plain scalar with a tag; a text that does not fit the tag is nothing. -/
def Node.ofTagged (tag : Tag) (text : List Char) : Node :=
  match tag with
  | .bool => match String.ofList text with
    | "true" => .bool true
    | "false" => .bool false
    | _ => .null
  | .int => match Number.readInt64? text with
    | some n => .integer n
    | none => .null
  | .float => if isReal text then .real text else .null
  | .null => .null
  | .other => .text text

/-! ## As configuration values -/

/-- A scalar as a key: its kind and its spelling.  Collections and nothing are no keys. -/
def Node.key? : Node → Option (Nat × List Char)
  | .bool b => some (0, if b then ['t', 'r', 'u', 'e'] else ['f', 'a', 'l', 's', 'e'])
  | .integer n => some (1, Json.writeInt n)
  | .real written => some (2, written)
  | .text t => some (3, t)
  | _ => none

mutual

/-- The configuration value of a node.  Keys have to be scalars and distinct, and the special numbers
have no value. -/
def Node.value? : Node → Option Value
  | .null => some .nil
  | .bool b => some (.bool b)
  | .integer n => some (.integer n)
  | .real written => (Number.readFloat? written).map .real
  | .text t => some (.text t)
  | .sequence items => (nodeValues? items).map .list
  | .mapping entries => (entryValues? [] [] entries).map .table

def nodeValues? : List Node → Option (List Value)
  | [] => some []
  | node :: rest => do some ((← node.value?) :: (← nodeValues? rest))

def entryValues? (seen : List (Nat × List Char)) (read : Config.Table) :
    List (Node × Node) → Option Config.Table
  | [] => some read
  | (key, node) :: rest => do
    let key ← key.key?
    if seen.contains key then none
    else entryValues? (key :: seen) (Json.putMember key.2 (← node.value?) read) rest

end

end RequestKeys.Yaml
