import RequestKeys.Json.Node
import RequestKeys.Number.Written
import RequestKeys.Text.Quoted

/-!
# Decoding JSON texts

What can be wrong with a JSON text that is to be read as a value of a certain form, and the decoders
of simple values.  `DataFault.message` is the only place where faults get their wording.
-/

namespace RequestKeys.Json

/-- What stands where something else is expected. -/
inductive Found where
  | null
  | bool (b : Bool)
  | number (q : Quantity)
  | string (text : List Char)
  | array
  | object

/-- A well-formed text with the wrong content. -/
inductive DataFault where
  | wrongType (found : Found) (expected : String)
  | wrongLength (length : Nat) (expected : String)
  | missingField (name : String)
  | duplicateField (name : String)
  | unknownField (name : List Char) (expected : List String)

/-- Why a text cannot be decoded. -/
inductive Fault where
  | form (d : Defect)
  | data (f : DataFault)

/-- What was found, in words. -/
def Found.describe : Found → String
  | null => "null"
  | bool b => s!"boolean `{b}`"
  | number (.integer n) => s!"integer `{n}`"
  | number (.real x) => s!"floating point `" ++ String.ofList (Number.literal x) ++ "`"
  | string text => "string " ++ String.ofList (Quoted.quote text)
  | array => "sequence"
  | object => "map"

/-- The names to choose from, in words. -/
def describeNames (names : List String) : String :=
  match names.map fun n => s!"`{n}`" with
  | [] => "there are no fields"
  | [a] => "expected " ++ a
  | [a, b] => "expected " ++ a ++ " or " ++ b
  | names => "expected one of " ++ ", ".intercalate names

/-- The wording of a fault. -/
def DataFault.message : DataFault → String
  | wrongType found expected => "invalid type: " ++ found.describe ++ ", expected " ++ expected
  | wrongLength length expected => s!"invalid length {length}, expected " ++ expected
  | missingField name => s!"missing field `{name}`"
  | duplicateField name => s!"duplicate field `{name}`"
  | unknownField name expected =>
    "unknown field `" ++ String.ofList name ++ "`, " ++ describeNames expected

/-- The fault of a value of another form than expected. -/
def Node.mismatch (expected : String) : Node → Fault
  | .null => .data (.wrongType .null expected)
  | .bool b => .data (.wrongType (.bool b) expected)
  | .number n => match n.quantity? with
    | some q => .data (.wrongType (.number q) expected)
    | none => .form .malformed
  | .string (some text) => .data (.wrongType (.string text) expected)
  | .string none => .form .malformed
  | .array .. => .data (.wrongType .array expected)
  | .object .. => .data (.wrongType .object expected)
  | .defect read _ => .form read

/-- A string. -/
def Node.text : Node → Except Fault (List Char)
  | .string (some text) => .ok text
  | other => .error (other.mismatch "a string")

/-- A boolean. -/
def Node.flag : Node → Except Fault Bool
  | .bool b => .ok b
  | other => .error (other.mismatch "a boolean")

/-- A string, or null for none. -/
def Node.optionalText : Node → Except Fault (Option (List Char))
  | .null => .ok none
  | other => other.text.map some

mutual

/-- Passes over a value that nobody wants; only its form counts. -/
def Node.skip : Node → Except Fault Unit
  | .array items ending => do
    skipItems items
    ending.skip
  | .object members ending => do
    skipMembers members
    ending.skip
  | .defect _ skip => .error (.form skip)
  | _ => .ok ()

def skipItems : List Node → Except Fault Unit
  | [] => .ok ()
  | item :: rest => do
    item.skip
    skipItems rest

def skipMembers : List (Option (List Char) × Node) → Except Fault Unit
  | [] => .ok ()
  | (_, value) :: rest => do
    value.skip
    skipMembers rest

/-- Passes over the end of an array or an object. -/
def Ending.skip : Ending → Except Fault Unit
  | .closed => .ok ()
  | .broken _ _ skip => .error (.form skip)

end

/-- The end of an array or an object where further elements would have been welcome. -/
def Ending.read : Ending → Except Fault Unit
  | .closed => .ok ()
  | .broken _ read _ => .error (.form read)

/-- The end of an array that may have no further elements. -/
def readEnd : List Node → Ending → Except Fault Unit
  | [], .closed => .ok ()
  | [], .broken false read _ => .error (.form read)
  | [], .broken true _ _ | _ :: _, _ => .error (.form .malformed)

/-- The members of an object applied to what has been read so far, in order. -/
def foldMembers {σ : Type} (step : σ → List Char → Node → Except Fault σ) (ending : Ending) :
    σ → List (Option (List Char) × Node) → Except Fault σ
  | s, [] => do
    ending.read
    .ok s
  | _, (none, _) :: _ => .error (.form .malformed)
  | s, (some name, value) :: rest => do foldMembers step ending (← step s name value) rest

/-- A field that has been read at most once so far. -/
def readField {α : Type} (name : String) (before : Option α) (value : Except Fault α) :
    Except Fault (Option α) :=
  match before with
  | some _ => .error (.data (.duplicateField name))
  | none => value.map some

/-- A field that has to be there. -/
def required {α : Type} (name : String) : Option α → Except Fault α
  | some a => .ok a
  | none => .error (.data (.missingField name))

/-- The next element of an array that stands for a record: the `index`-th of those that `expected`
speaks of.  Where the array has ended `default` takes its place, if there is one. -/
def nextItem {α : Type} (expected : String) (index : Nat) (default : Option α)
    (read : Node → Except Fault α) (ending : Ending) :
    List Node → Except Fault (α × List Node)
  | item :: rest => do .ok (← read item, rest)
  | [] => do
    ending.read
    match default with
    | some a => .ok (a, [])
    | none => .error (.data (.wrongLength index expected))

/-- The value of a whole text: nothing may follow what `read` accepts. -/
def decode {α : Type} (read : Node → Except Fault α) (text : List Char) : Except Fault α := do
  let d := Document.ofText text
  let a ← read d.root
  if d.clean then .ok a else .error (.form .malformed)

end RequestKeys.Json
