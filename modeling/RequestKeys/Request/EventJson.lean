import RequestKeys.Json.Fault
import RequestKeys.Json.Value
import RequestKeys.Request.Event

/-!
# Events as JSON

The compact JSON text of an event, and the texts that are read as events: objects with the fields in
any order and others beside them, or arrays of the fields in order.
-/

namespace RequestKeys

open Json (Node Fault foldMembers nextItem readEnd readField required)

namespace Target

/-- The fields of a target read so far. -/
structure Draft where
  path : Option (List Char)
  query : Option (Option (List Char))

/-- One more member of an object. -/
def Draft.step (d : Draft) (name : List Char) (value : Node) : Except Fault Draft :=
  match String.ofList name with
  | "path" => do .ok { d with path := ← readField "path" d.path value.text }
  | "raw_query" => do .ok { d with query := ← readField "raw_query" d.query value.optionalText }
  | _ => do
    value.skip
    .ok d

/-- The target that a JSON value stands for. -/
def ofNode : Node → Except Fault Target
  | .object members ending => do
    let d ← foldMembers Draft.step ending ⟨none, none⟩ members
    .ok ⟨← required "path" d.path, d.query.getD none⟩
  | .array items ending => do
    let expected := "struct RequestUrl with 2 elements"
    let (path, items) ← nextItem expected 0 none Node.text ending items
    let (query, items) ← nextItem expected 1 (some none) Node.optionalText ending items
    readEnd items ending
    .ok ⟨path, query⟩
  | other => .error (other.mismatch "struct RequestUrl")

/-- The JSON value of a target, in which a query is a field only if there is one. -/
def toJson (t : Target) : Json.Value :=
  .object (("path".toList, .string t.path) :: match t.query with
    | some query => [("raw_query".toList, .string query)]
    | none => [])

end Target

namespace Event

/-- The fields of an event read so far. -/
structure Draft where
  method : Option (List Char)
  target : Option Target
  key : Option (List Char)

/-- One more member of an object. -/
def Draft.step (d : Draft) (name : List Char) (value : Node) : Except Fault Draft :=
  match String.ofList name with
  | "method" => do .ok { d with method := ← readField "method" d.method value.text }
  | "url" => do .ok { d with target := ← readField "url" d.target (Target.ofNode value) }
  | "event_key" => do .ok { d with key := ← readField "event_key" d.key value.text }
  | _ => do
    value.skip
    .ok d

/-- The event that a JSON value stands for; the key may be missing. -/
def ofNode : Node → Except Fault Event
  | .object members ending => do
    let d ← foldMembers Draft.step ending ⟨none, none, none⟩ members
    .ok ⟨← required "method" d.method, ← required "url" d.target, d.key.getD []⟩
  | .array items ending => do
    let expected := "struct HttpRequestEvent with 3 elements"
    let (method, items) ← nextItem expected 0 none Node.text ending items
    let (target, items) ← nextItem expected 1 none Target.ofNode ending items
    let (key, items) ← nextItem expected 2 (some []) Node.text ending items
    readEnd items ending
    .ok ⟨method, target, key⟩
  | other => .error (other.mismatch "struct HttpRequestEvent")

/-- The event that a JSON text stands for. -/
def ofJsonText (text : List Char) : Except Fault Event := Json.decode ofNode text

/-- The JSON value of an event. -/
def toJson (e : Event) : Json.Value :=
  .object [("method".toList, .string e.method), ("url".toList, e.target.toJson),
    ("event_key".toList, .string e.key)]

/-- The JSON text of an event. -/
def toJsonText (e : Event) : List Char := e.toJson.write

end Event

end RequestKeys
