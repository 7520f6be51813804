import RequestKeys.Config.Settings
import RequestKeys.Json.Fault
import RequestKeys.Json.Value

/-!
# Settings as JSON

The compact JSON text of settings, and the texts that are read as settings: objects with known fields
in any order, or arrays of the fields in order.  What is missing has its default.
-/

namespace RequestKeys

open Json (Node Fault foldMembers nextItem readEnd readField required)

namespace RuleSettings

/-- The names of the fields of a rule, in order. -/
def fieldNames : List String := ["pattern", "replacement"]

/-- The fields of a rule read so far. -/
structure Draft where
  pattern : Option (List Char)
  replacement : Option (List Char)

/-- One more member of an object. -/
def Draft.step (d : Draft) (name : List Char) (value : Node) : Except Fault Draft :=
  match String.ofList name with
  | "pattern" => do .ok { d with pattern := ← readField "pattern" d.pattern value.text }
  | "replacement" => do
    .ok { d with replacement := ← readField "replacement" d.replacement value.text }
  | _ => .error (.data (.unknownField name fieldNames))

/-- The rule that a JSON value stands for. -/
def ofNode : Node → Except Fault RuleSettings
  | .object members ending => do
    let d ← foldMembers Draft.step ending ⟨none, none⟩ members
    .ok ⟨← required "pattern" d.pattern, ← required "replacement" d.replacement⟩
  | .array items ending => do
    let expected := "struct RewriteRuleConfig with 2 elements"
    let (pattern, items) ← nextItem expected 0 none Node.text ending items
    let (replacement, items) ← nextItem expected 1 none Node.text ending items
    readEnd items ending
    .ok ⟨pattern, replacement⟩
  | other => .error (other.mismatch "struct RewriteRuleConfig")

/-- The rules in an array, in order. -/
def ofNodes (ending : Json.Ending) : List Node → Except Fault (List RuleSettings)
  | [] => do
    ending.read
    .ok []
  | node :: rest => do
    let rule ← ofNode node
    .ok (rule :: (← ofNodes ending rest))

/-- The rules that a JSON value stands for. -/
def listOfNode : Node → Except Fault (List RuleSettings)
  | .array items ending => ofNodes ending items
  | other => .error (other.mismatch "a sequence")

/-- The JSON value of a rule. -/
def toJson (r : RuleSettings) : Json.Value :=
  .object [("pattern".toList, .string r.pattern), ("replacement".toList, .string r.replacement)]

end RuleSettings

namespace Settings

/-- The names of the settings, in order. -/
def fieldNames : List String :=
  ["query_param_name", "rewrite_rules", "sanitize_hashes", "sanitize_numbers", "sanitize_uuids",
    "sanitize_ips", "sanitize_images", "sanitize_fonts"]

/-- The settings read so far. -/
structure Draft where
  parameter : Option (List Char)
  rules : Option (List RuleSettings)
  hashes : Option Bool
  numbers : Option Bool
  uuids : Option Bool
  ips : Option Bool
  images : Option Bool
  fonts : Option Bool

/-- Nothing has been read. -/
def Draft.empty : Draft := ⟨none, none, none, none, none, none, none, none⟩

/-- One more member of an object. -/
def Draft.step (d : Draft) (name : List Char) (value : Node) : Except Fault Draft :=
  match String.ofList name with
  | "query_param_name" => do
    .ok { d with parameter := ← readField "query_param_name" d.parameter value.text }
  | "rewrite_rules" => do
    .ok { d with rules := ← readField "rewrite_rules" d.rules (RuleSettings.listOfNode value) }
  | "sanitize_hashes" => do
    .ok { d with hashes := ← readField "sanitize_hashes" d.hashes value.flag }
  | "sanitize_numbers" => do
    .ok { d with numbers := ← readField "sanitize_numbers" d.numbers value.flag }
  | "sanitize_uuids" => do
    .ok { d with uuids := ← readField "sanitize_uuids" d.uuids value.flag }
  | "sanitize_ips" => do .ok { d with ips := ← readField "sanitize_ips" d.ips value.flag }
  | "sanitize_images" => do
    .ok { d with images := ← readField "sanitize_images" d.images value.flag }
  | "sanitize_fonts" => do
    .ok { d with fonts := ← readField "sanitize_fonts" d.fonts value.flag }
  | _ => .error (.data (.unknownField name fieldNames))

/-- The settings read.  A field that is missing is empty, and one for a kind of segments is set. -/
def Draft.settings (d : Draft) : Settings :=
  { parameter := d.parameter.getD []
    rules := d.rules.getD []
    hashes := d.hashes.getD true
    numbers := d.numbers.getD true
    uuids := d.uuids.getD true
    ips := d.ips.getD true
    images := d.images.getD true
    fonts := d.fonts.getD true }

/-- The settings that a JSON value stands for. -/
def ofNode : Node → Except Fault Settings
  | .object members ending => do
    .ok (← foldMembers Draft.step ending Draft.empty members).settings
  | .array items ending => do
    let expected := "struct NormalizerConfig with 8 elements"
    let flag (index : Nat) := nextItem expected index (some true) Node.flag ending
    let (parameter, items) ← nextItem expected 0 (some []) Node.text ending items
    let (rules, items) ← nextItem expected 1 (some []) RuleSettings.listOfNode ending items
    let (hashes, items) ← flag 2 items
    let (numbers, items) ← flag 3 items
    let (uuids, items) ← flag 4 items
    let (ips, items) ← flag 5 items
    let (images, items) ← flag 6 items
    let (fonts, items) ← flag 7 items
    readEnd items ending
    .ok ⟨parameter, rules, hashes, numbers, uuids, ips, images, fonts⟩
  | other => .error (other.mismatch "struct NormalizerConfig")

/-- The settings that a JSON text stands for. -/
def ofJsonText (text : List Char) : Except Fault Settings := Json.decode ofNode text

/-- The JSON value of settings. -/
def toJson (s : Settings) : Json.Value :=
  .object [("query_param_name".toList, .string s.parameter),
    ("rewrite_rules".toList, .array (s.rules.map (·.toJson))),
    ("sanitize_hashes".toList, .bool s.hashes),
    ("sanitize_numbers".toList, .bool s.numbers),
    ("sanitize_uuids".toList, .bool s.uuids),
    ("sanitize_ips".toList, .bool s.ips),
    ("sanitize_images".toList, .bool s.images),
    ("sanitize_fonts".toList, .bool s.fonts)]

/-- The JSON text of settings. -/
def toJsonText (s : Settings) : List Char := s.toJson.write

end Settings

end RequestKeys
