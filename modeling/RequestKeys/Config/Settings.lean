import RequestKeys.Pattern.Basic
import RequestKeys.Request.Key
import RequestKeys.Text.Quoted

/-!
# Settings

What can be set about the keys, and its compilation in two stages: into compiled settings, which fails
at the first rule whose pattern is none, and from there into a key builder.
-/

namespace RequestKeys

/-- A rule for whole paths as it is configured. -/
structure RuleSettings where
  pattern : List Char
  replacement : List Char
  deriving DecidableEq

/-- A configuration: the query parameter that goes into keys, the rules for whole paths, and for each
kind of segments whether it is looked for. -/
structure Settings where
  parameter : List Char
  rules : List RuleSettings
  hashes : Bool
  numbers : Bool
  uuids : Bool
  ips : Bool
  images : Bool
  fonts : Bool
  deriving DecidableEq

namespace Settings

/-- Everything is looked for, there are no rules, and no parameter goes into keys. -/
def defaults : Settings :=
  { parameter := []
    rules := []
    hashes := true
    numbers := true
    uuids := true
    ips := true
    images := true
    fonts := true }

/-- The kinds that the settings look for. -/
def detection (s : Settings) : Path.Detection :=
  { hashes := s.hashes
    numbers := s.numbers
    uuids := s.uuids
    ips := s.ips
    images := s.images
    fonts := s.fonts }

end Settings

/-! ## Compiled settings -/

/-- A rule whose pattern is not valid, and its place among the rules. -/
structure BadRule where
  index : Nat
  pattern : List Char
  deriving DecidableEq

/-- The wording of a failed compilation. -/
def BadRule.message (b : BadRule) : String :=
  s!"failed to compile rewrite rule #{b.index} pattern " ++ String.ofList (Quoted.quote b.pattern)

/-- Settings whose rules have been compiled. -/
structure CompiledSettings where
  detection : Path.Detection
  rules : List Path.Rule
  parameter : List Char

namespace CompiledSettings

/-- Kinds to look for, with no rules and no parameter. -/
def ofDetection (d : Path.Detection) : CompiledSettings := ⟨d, [], []⟩

def withRules (c : CompiledSettings) (rules : List Path.Rule) : CompiledSettings := { c with rules }

def withParameter (c : CompiledSettings) (parameter : List Char) : CompiledSettings :=
  { c with parameter }

/-- The sanitizer of compiled settings. -/
def sanitizer (c : CompiledSettings) : Path.Sanitizer :=
  { detection := c.detection
    rules := c.rules }

/-- The key builder of compiled settings. -/
def keyBuilder (c : CompiledSettings) : KeyBuilder :=
  { sanitizer := c.sanitizer
    parameter := c.parameter }

end CompiledSettings

/-! ## Compilation -/

namespace Pattern.Engine

variable (E : Engine)

/-- The rule of a compiled pattern, if the pattern is valid. -/
def rule? (r : RuleSettings) : Option Path.Rule :=
  (E.compile? r.pattern).map fun x =>
    { pattern := E.text x
      accepts := E.occursIn x
      replacement := r.replacement }

/-- The compiled rules, or the place and the text of the first invalid pattern, `index` being the
place of the first rule of the list. -/
def compileRules (index : Nat) : List RuleSettings → Except BadRule (List Path.Rule)
  | [] => .ok []
  | r :: rest => match E.rule? r with
    | none => .error ⟨index, r.pattern⟩
    | some q => (compileRules (index + 1) rest).map (q :: ·)

/-- Settings with compiled rules. -/
def compileSettings (s : Settings) : Except BadRule CompiledSettings := do
  let rules ← E.compileRules 0 s.rules
  .ok (((CompiledSettings.ofDetection s.detection).withRules rules).withParameter s.parameter)

/-- The key builder that settings describe. -/
def keyBuilder (s : Settings) : Except BadRule KeyBuilder := do
  let compiled ← E.compileSettings s
  .ok compiled.keyBuilder

end Pattern.Engine

/-- Rules compiled by the engine of this library. -/
def compileRules (index : Nat) (rules : List RuleSettings) : Except BadRule (List Path.Rule) :=
  Pattern.engine.compileRules index rules

/-- The key builder that settings describe to the engine of this library. -/
def Settings.compile (s : Settings) : Except BadRule KeyBuilder := Pattern.engine.keyBuilder s

/-! ## Showing a key builder -/

namespace KeyBuilder

/-- A truth value in words. -/
def showBool (b : Bool) : String := if b then "true" else "false"

/-- A quoted text. -/
def showText (text : List Char) : String := String.ofList (Quoted.quote text)

/-- The parts of a record between braces. -/
def showRecord (name : String) (fields : List (String × String)) (more : Bool) : String :=
  let parts := fields.map (fun (field, value) => field ++ ": " ++ value) ++
    (if more then [".."] else [])
  name ++ " \x7b " ++ ", ".intercalate parts ++ " \x7d"

/-- What is looked for, as a record. -/
def showDetection (d : Path.Detection) : String :=
  showRecord "Heuristics" [("hashes", showBool d.hashes), ("numbers", showBool d.numbers),
    ("uuids", showBool d.uuids), ("ips", showBool d.ips), ("images", showBool d.images),
    ("fonts", showBool d.fonts)] false

/-- A rule as a record. -/
def showRule (r : Path.Rule) : String :=
  showRecord "RewriteRule" [("pattern", "Regex(" ++ showText r.pattern ++ ")"),
    ("replacement", showText r.replacement)] false

/-- A stage with this key builder on one line, as it is shown to someone who looks for a mistake in
the configuration. -/
def describe (b : KeyBuilder) : String :=
  let sanitizer := showRecord "PathSanitizer"
    [("heuristics", showDetection b.sanitizer.detection),
      ("rewrite_rules", "[" ++ ", ".intercalate (b.sanitizer.rules.map showRule) ++ "]")] false
  let builder := showRecord "EventKeyBuilder"
    [("sanitizer", sanitizer), ("query_param_name", showText b.parameter)] false
  showRecord "NormalizationStage" [("builder", builder)] true

end KeyBuilder

end RequestKeys
