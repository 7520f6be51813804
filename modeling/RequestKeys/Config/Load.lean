import RequestKeys.Config.Environment
import RequestKeys.Config.Layer
import RequestKeys.Config.SettingsJson
import RequestKeys.Toml.Reader
import RequestKeys.Yaml.Reader

/-!
# Loading settings

Settings come from three layers: the defaults, a file, and the environment, the later ones winning.
What the layers add up to is read with lenient conversions, but only known fields are accepted.  Files
are read in the three formats defined here, and in any further ones that a loader comes with.
-/

namespace RequestKeys.Config

/-- A format of configuration files. -/
inductive Format where
  | toml
  | yaml
  | json
  deriving DecidableEq

/-- The format of files with an extension, among these. -/
def Format.ofExtension? (extension : List Char) : Option Format :=
  match String.ofList extension with
  | "toml" => some toml
  | "yaml" | "yml" => some yaml
  | "json" => some json
  | _ => none

/-- The table that a text spells in a format. -/
def Format.read? : Format → List Char → Option Table
  | toml, text => Toml.read? text
  | yaml, text => Yaml.read? text
  | json, text => readJson? text

/-- Further formats: what reads files with an extension, if there is a format for it. -/
abbrev Formats := List Char → Option (List Char → Option Table)

/-- There are no further formats. -/
def Formats.none : Formats := fun _ => .none

/-- What reads files with an extension. -/
def Formats.reader? (further : Formats) (extension : List Char) :
    Option (List Char → Option Table) :=
  match Format.ofExtension? extension with
  | some format => some format.read?
  | .none => further extension

/-- The extension of a file by its name, of which only the part after the last slash counts: what
follows the last point there, if that is not the first character. -/
def extensionOf (name : List Char) : List Char :=
  let base := name.reverse.takeWhile (· ≠ '/')
  let extension := (base.takeWhile (· ≠ '.')).reverse
  if extension.length + 1 < base.length then extension else []

/-- A configuration file: its name, and its octets if it exists. -/
structure File where
  name : List Char
  content : Option (List UInt8)

/-- The text of a file, without the mark of its byte order. -/
def decodeText (content : List UInt8) : List Char :=
  match content with
  | 0xEF :: 0xBB :: 0xBF :: rest => Utf8.decode rest
  | _ => Utf8.decode content

/-- The layer that a file makes. -/
def Formats.layer (further : Formats) (f : File) : Except Failure Table :=
  match f.content, further.reader? (extensionOf f.name) with
  | some content, some read? => match read? (decodeText content) with
    | some table => .ok table
    | .none => .error .fileParse
  | _, _ => .error .foreign

/-- The defaults as a file would set them. -/
def defaultText : String :=
  "
query_param_name = \"\"
sanitize_hashes  = true
sanitize_numbers = true
sanitize_uuids   = true
sanitize_ips     = true
sanitize_images  = true
sanitize_fonts   = true
"

/-- The layer of the defaults, which is the table that `defaultText` spells.  There are no rules by
default, and no entry for them. -/
def defaultLayer : Table :=
  [("query_param_name".toList, .text []), ("sanitize_hashes".toList, .bool true),
    ("sanitize_numbers".toList, .bool true), ("sanitize_uuids".toList, .bool true),
    ("sanitize_ips".toList, .bool true), ("sanitize_images".toList, .bool true),
    ("sanitize_fonts".toList, .bool true)]

/-! ## Reading settings -/

/-- One more entry of a rule. -/
def ruleStep (d : RuleSettings.Draft) (key : List Char) (value : Value) :
    Except Failure RuleSettings.Draft :=
  match String.ofList key with
  | "pattern" => do .ok { d with pattern := some (← value.toText) }
  | "replacement" => do .ok { d with replacement := some (← value.toText) }
  | _ => .error .message

/-- The entries of a table applied to a draft in order. -/
def foldEntries {σ : Type} (step : σ → List Char → Value → Except Failure σ) :
    σ → Table → Except Failure σ
  | s, [] => .ok s
  | s, (key, value) :: rest => do foldEntries step (← step s key value) rest

/-- A rule: a table of its two fields, or a list of their values. -/
def Value.toRule : Value → Except Failure RuleSettings
  | .table entries => do
    match ← foldEntries ruleStep ⟨none, none⟩ entries with
    | ⟨some pattern, some replacement⟩ => .ok ⟨pattern, replacement⟩
    | _ => .error .notFound
  | .list (pattern :: replacement :: _) => do .ok ⟨← pattern.toText, ← replacement.toText⟩
  | .list [pattern] => do
    let _ ← pattern.toText
    .error .message
  | _ => .error .message

/-- A list of rules. -/
def Value.toRules : Value → Except Failure (List RuleSettings)
  | .list items => items.mapM Value.toRule
  | _ => .error .message

/-- One more entry of the settings. -/
def settingsStep (d : Settings.Draft) (key : List Char) (value : Value) :
    Except Failure Settings.Draft :=
  match String.ofList key with
  | "query_param_name" => do .ok { d with parameter := some (← value.toText) }
  | "rewrite_rules" => do .ok { d with rules := some (← value.toRules) }
  | "sanitize_hashes" => do .ok { d with hashes := some (← value.toBool) }
  | "sanitize_numbers" => do .ok { d with numbers := some (← value.toBool) }
  | "sanitize_uuids" => do .ok { d with uuids := some (← value.toBool) }
  | "sanitize_ips" => do .ok { d with ips := some (← value.toBool) }
  | "sanitize_images" => do .ok { d with images := some (← value.toBool) }
  | "sanitize_fonts" => do .ok { d with fonts := some (← value.toBool) }
  | _ => .error .message

/-- The settings that a table describes. -/
def Value.toSettings (v : Value) : Except Failure Settings := do
  .ok (← foldEntries settingsStep Settings.Draft.empty v.entries).settings

/-- The settings that the table of a file, if there is one, and an environment make on top of the
defaults. -/
def ofLayers (file : Option Table) (environment : Environment) : Except Failure Settings :=
  let base := apply (.table []) defaultLayer
  let base := match file with
    | some table => apply base table
    | none => base
  (apply base environment.layer).toSettings

/-- The settings that a file, if one is given, and an environment make. -/
def Formats.load (further : Formats) (file : Option File) (environment : Environment) :
    Except Failure Settings :=
  match file with
  | some file => do ofLayers (some (← further.layer file)) environment
  | .none => ofLayers .none environment

/-- Loading with no further formats. -/
def load (file : Option File) (environment : Environment) : Except Failure Settings :=
  Formats.none.load file environment

end RequestKeys.Config
