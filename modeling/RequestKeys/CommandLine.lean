import RequestKeys.Config.Load
import RequestKeys.Flow.Pipeline

/-!
# The command line

Options, and what a run of the program comes to: an exit code and the text on standard output.  How
settings are loaded and which patterns are valid is up to the loader and the engine that a run uses.
-/

namespace RequestKeys.CommandLine

/-- The options of a run. -/
structure Options where
  config : Option (List Char)
  format : Format
  buffer : Nat
  metricsBind : Option (List Char)
  debug : Bool

/-- The options as far as they have been given; none may be given twice. -/
structure Draft where
  config : Option (List Char)
  format : Option Format
  buffer : Option Nat
  metricsBind : Option (List Char)
  debug : Bool

/-- No option has been given. -/
def Draft.empty : Draft := ⟨none, none, none, none, false⟩

/-- The options given, with defaults for the others. -/
def Draft.options (d : Draft) : Options :=
  { config := d.config
    format := d.format.getD .key
    buffer := d.buffer.getD 1024
    metricsBind := d.metricsBind
    debug := d.debug }

/-- The largest 64-bit number. -/
def maxWord : Nat := 0xFFFFFFFFFFFFFFFF

/-- A number of 64 bits, with an optional plus sign. -/
def readSize? (text : List Char) : Option Nat :=
  let digits := if text.head? = some '+' then text.drop 1 else text
  if digits.isEmpty || !digits.all isDigit then none
  else
    let n := digitsValue 10 digits
    if n ≤ maxWord then some n else none

/-- Sets an option that takes a value. -/
def setOption (d : Draft) (name : String) (value : List Char) : Option Draft :=
  match name with
  | "--config" =>
    if d.config.isSome || value.isEmpty then none else some { d with config := some value }
  | "--format" =>
    if d.format.isSome then none
    else (Format.ofName? (String.ofList value)).map fun f => { d with format := some f }
  | "--buffer" =>
    if d.buffer.isSome then none
    else (readSize? value).map fun n => { d with buffer := some n }
  | "--metrics-bind" =>
    if d.metricsBind.isSome then none else some { d with metricsBind := some value }
  | _ => none

/-- Whether an argument looks like an option and therefore is no value; a lone hyphen does not. -/
def looksLikeOption : List Char → Bool
  | '-' :: _ :: _ => true
  | _ => false

/-- The options that arguments spell.  A value follows its option as the next argument or after an
equals sign; after two hyphens there may be nothing. -/
def parseFrom (d : Draft) : List (List Char) → Option Draft
  | [] => some d
  | [['-', '-']] => some d
  | arg :: rest => match Split.cut '=' arg with
    | some (name, value) => do parseFrom (← setOption d (String.ofList name) value) rest
    | none =>
      if String.ofList arg = "--debug" then
        if d.debug then none else parseFrom { d with debug := true } rest
      else match rest with
        | value :: rest =>
          if looksLikeOption value then none
          else do parseFrom (← setOption d (String.ofList arg) value) rest
        | [] => none

/-- The options that arguments spell, if they spell any. -/
def parse? (args : List (List Char)) : Option Options := (parseFrom .empty args).map (·.options)

/-- What a run leaves behind. -/
structure Outcome where
  exit : Nat
  output : List Char
  deriving DecidableEq

/-- The largest capacity that a channel can have. -/
def maxCapacity : Nat := maxWord / 8

/-- What a run uses: a loader of settings, and an engine for the patterns in them. -/
structure Tools where
  load : Option Config.File → Config.Environment → Except Config.Failure Settings
  engine : Pattern.Engine

/-- A run with options: `content` is what the configuration file holds, if it exists.  A run fails
with 1 if there is no valid configuration, and breaks down if the channels would be too large; the
address for metrics has no influence on it. -/
def Options.run (o : Options) (tools : Tools) (content : Option (List UInt8))
    (environment : Config.Environment) (input : List UInt8) : Outcome :=
  match tools.load (o.config.map fun name => ⟨name, content⟩) environment with
  | .error _ => ⟨1, []⟩
  | .ok settings => match tools.engine.keyBuilder settings with
    | .error _ => ⟨1, []⟩
    | .ok builder =>
      let capacity := max o.buffer 1
      if capacity > maxCapacity then ⟨101, []⟩
      else ⟨0, (Pipeline.run builder o.format capacity input).sink.text⟩

/-- A run with arguments; 2 says that they spell no options. -/
def Tools.run (tools : Tools) (args : List (List Char)) (content : Option (List UInt8))
    (environment : Config.Environment) (input : List UInt8) : Outcome :=
  match parse? args with
  | none => ⟨2, []⟩
  | some options => options.run tools content environment input

/-- The loader and the engine of this library. -/
def Tools.standard : Tools where
  load := Config.load
  engine := Pattern.engine

/-- A run with arguments that uses this library alone. -/
def run (args : List (List Char)) (content : Option (List UInt8))
    (environment : Config.Environment) (input : List UInt8) : Outcome :=
  Tools.standard.run args content environment input

end RequestKeys.CommandLine
