import RequestKeys.Flow.Feed
import RequestKeys.Flow.Sink
import RequestKeys.Flow.Stage

/-!
# The pipeline

A feed, a stage and a sink with bounded channels between them, each making its steps whenever it can.
-/

namespace RequestKeys

/-- The three tasks and the two channels. -/
structure Pipeline where
  builder : KeyBuilder
  feed : Feed
  requests : Channel Event
  stage : Stage
  keyed : Channel Event
  sink : Sink

namespace Pipeline

/-- A new pipeline over an input, with the capacities of its two channels. -/
def start (builder : KeyBuilder) (format : Format) (inCapacity outCapacity : Nat)
    (input : List UInt8) : Pipeline :=
  ⟨builder, .start input, .new inCapacity, .start, .new outCapacity, .start format⟩

/-- The next step of the feed. -/
def feedStep (p : Pipeline) : Option Pipeline :=
  (p.feed.step p.requests).map fun (requests, feed) => { p with requests, feed }

/-- The next step of the stage. -/
def stageStep (p : Pipeline) : Option Pipeline :=
  (p.stage.step p.builder p.requests p.keyed).map fun (requests, keyed, stage) =>
    { p with requests, keyed, stage }

/-- The next step of the sink. -/
def sinkStep (p : Pipeline) : Option Pipeline :=
  (p.sink.step p.keyed).map fun (keyed, sink) => { p with keyed, sink }

/-- One step of one of the tasks. -/
inductive Step : Pipeline → Pipeline → Prop where
  | feed {p q : Pipeline} (h : p.feedStep = some q) : Step p q
  | stage {p q : Pipeline} (h : p.stageStep = some q) : Step p q
  | sink {p q : Pipeline} (h : p.sinkStep = some q) : Step p q

/-- What can be reached by any interleaving of steps. -/
inductive Reachable (builder : KeyBuilder) (format : Format) (inCapacity outCapacity : Nat)
    (input : List UInt8) : Pipeline → Prop where
  | start : Reachable builder format inCapacity outCapacity input
      (.start builder format inCapacity outCapacity input)
  | next {p q : Pipeline} (h : Reachable builder format inCapacity outCapacity input p)
      (step : Step p q) : Reachable builder format inCapacity outCapacity input q

/-- All three tasks have ended. -/
def Ended (p : Pipeline) : Prop := p.feed.ended ∧ p.stage.phase = .closed ∧ p.sink.ended

/-- A step of the first task that can make one, the one furthest down the line first. -/
def advance (p : Pipeline) : Option Pipeline :=
  match p.sinkStep with
  | some q => some q
  | none => match p.stageStep with
    | some q => some q
    | none => p.feedStep

/-- Steps of any tasks, as many as `fuel` allows. -/
def runFor : (fuel : Nat) → Pipeline → Pipeline
  | 0, p => p
  | fuel + 1, p => match p.advance with
    | some q => runFor fuel q
    | none => p

/-- Runs all tasks to their end, with one capacity for both channels: five steps for every line,
which has an octet at least, suffice, and five for the ends. -/
def run (builder : KeyBuilder) (format : Format) (capacity : Nat) (input : List UInt8) : Pipeline :=
  let p := start builder format capacity capacity input
  runFor (5 * p.feed.unread.length + 5) p

end Pipeline

end RequestKeys
