import RequestKeys.Json.Node
import RequestKeys.Number.Written

/-!
# JSON values

Values without the text they were read from, and their compact text.
-/

namespace RequestKeys.Json

/-- A JSON value.  The names of an object are distinct. -/
inductive Value where
  | null
  | bool (b : Bool)
  | integer (n : Int)
  | real (x : Float)
  | string (text : List Char)
  | array (items : List Value)
  | object (members : List (List Char × Value))

/-- How deep arrays and objects may be nested in a value. -/
def maxDepth : Nat := 127

/-- Members with one more: in the place of a member of its name, or at the end. -/
def putMember {α : Type} (name : List Char) (value : α) :
    List (List Char × α) → List (List Char × α)
  | [] => [(name, value)]
  | (n, v) :: rest => if n = name then (n, value) :: rest else (n, v) :: putMember name value rest

mutual

/-- The value of a tree without defects, `depth` being how deep it may still be nested.  Of members
with the same name the last one counts. -/
def Node.value? (depth : Nat) : Node → Option Value
  | .null => some .null
  | .bool b => some (.bool b)
  | .number n => n.quantity?.map fun
    | .integer n => .integer n
    | .real x => .real x
  | .string text => text.map .string
  | .array items .closed =>
    if depth = 0 then none else (itemValues? (depth - 1) items).map .array
  | .object members .closed =>
    if depth = 0 then none else (memberValues? (depth - 1) [] members).map .object
  | .array _ (.broken ..) | .object _ (.broken ..) | .defect .. => none

def itemValues? (depth : Nat) : List Node → Option (List Value)
  | [] => some []
  | item :: rest => do some ((← item.value? depth) :: (← itemValues? depth rest))

def memberValues? (depth : Nat) (read : List (List Char × Value)) :
    List (Option (List Char) × Node) → Option (List (List Char × Value))
  | [] => some read
  | (name, node) :: rest => do
    memberValues? depth (putMember (← name) (← node.value? depth) read) rest

end

/-- The value that a text spells. -/
def Value.ofText? (text : List Char) : Option Value :=
  let d := Document.ofText text
  if d.clean then d.root.value? maxDepth else none

/-! ## Writing -/

/-- A character as it stands in a string: quotes, backslashes and controls are escaped. -/
def escapeChar (c : Char) : List Char :=
  if c = '"' then ['\\', '"']
  else if c = '\\' then ['\\', '\\']
  else if c = '\x08' then ['\\', 'b']
  else if c = '\x0c' then ['\\', 'f']
  else if c = '\n' then ['\\', 'n']
  else if c = '\r' then ['\\', 'r']
  else if c = '\t' then ['\\', 't']
  else if c.toNat < 0x20 then
    ['\\', 'u', '0', '0', lowerHexDigit (c.toNat / 16), lowerHexDigit (c.toNat % 16)]
  else [c]

/-- A text as a JSON string. -/
def writeString (text : List Char) : List Char := '"' :: (text.flatMap escapeChar ++ ['"'])

/-- An integer in decimal digits. -/
def writeInt (n : Int) : List Char :=
  (if n < 0 then ['-'] else []) ++ decimalDigits n.natAbs

mutual

/-- The compact text of a value. -/
def Value.write : Value → List Char
  | .null => ['n', 'u', 'l', 'l']
  | .bool true => ['t', 'r', 'u', 'e']
  | .bool false => ['f', 'a', 'l', 's', 'e']
  | .integer n => writeInt n
  | .real x => Number.literal x
  | .string text => writeString text
  | .array [] => ['[', ']']
  | .array (item :: rest) => '[' :: (item.write ++ writeItems rest)
  | .object [] => ['\x7b', '\x7d']
  | .object ((name, value) :: rest) =>
    '\x7b' :: (writeString name ++ ':' :: (value.write ++ writeMembers rest))

/-- The items after the first, each with a comma before it, and the closing bracket. -/
def writeItems : List Value → List Char
  | [] => [']']
  | item :: rest => ',' :: (item.write ++ writeItems rest)

/-- The members after the first, each with a comma before it, and the closing brace. -/
def writeMembers : List (List Char × Value) → List Char
  | [] => ['\x7d']
  | (name, value) :: rest => ',' :: (writeString name ++ ':' :: (value.write ++ writeMembers rest))

end

end RequestKeys.Json
