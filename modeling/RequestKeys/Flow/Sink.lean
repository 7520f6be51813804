import RequestKeys.Flow.Channel
import RequestKeys.Request.EventJson

/-!
# The sink

A task that writes the events of a channel, one to a line.
-/

namespace RequestKeys

/-- How an event is written: by its key alone, or as a JSON object. -/
inductive Format where
  | key
  | jsonl
  deriving DecidableEq

namespace Format

/-- The format of a name. -/
def ofName? : String → Option Format
  | "key" => some key
  | "jsonl" => some jsonl
  | _ => none

/-- An event as it is written. -/
def render : Format → Event → List Char
  | key, e => e.key
  | jsonl, e => e.toJsonText

/-- The line of an event. -/
def line (f : Format) (e : Event) : List Char := f.render e ++ ['\n']

end Format

/-- A sink: its format, the lines it has written, newest first, and whether it has ended. -/
structure Sink where
  format : Format
  lines : List (List Char)
  ended : Bool

namespace Sink

/-- A sink that has written nothing. -/
def start (format : Format) : Sink := ⟨format, [], false⟩

/-- How many events have been written. -/
def written (s : Sink) : Nat := s.lines.length

/-- The text that has been written. -/
def text (s : Sink) : List Char := s.lines.reverse.flatten

/-- The next step of a sink from a channel, or `none` while it waits and after it has ended. -/
def step (input : Channel Event) (s : Sink) : Option (Channel Event × Sink) :=
  if s.ended then none
  else match input.take with
    | .item e input => some (input, { s with lines := s.format.line e :: s.lines })
    | .empty => none
    | .closed => some (input.dropReceiver, { s with ended := true })

/-- Everything that a sink writes when the given events are all it receives. -/
def writeAll (format : Format) (events : List Event) : Nat × List Char :=
  (events.length, (events.map format.line).flatten)

end Sink

end RequestKeys
