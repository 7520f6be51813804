import RequestKeys.Flow.Channel
import RequestKeys.Request.Key

/-!
# The keying stage

A task between two channels that gives every event a key.  It takes one event at a time, so the order
of events never changes, and it ends when its input is closed and drained or its output has nobody to
receive it.
-/

namespace RequestKeys

/-- Where a stage is in its life. -/
inductive Phase where
  | running
  | draining
  | closed
  deriving DecidableEq

/-- The name of a phase. -/
def Phase.name : Phase → String
  | running => "running"
  | draining => "draining"
  | closed => "closed"

/-- How many events a stage has received, how many of these it has keyed, and how many had a key. -/
structure Summary where
  received : Nat
  normalized : Nat
  passedThrough : Nat
  deriving DecidableEq

/-- One more event, before it gets its key. -/
def Summary.count (s : Summary) (e : Event) : Summary :=
  if e.isKeyed then { s with received := s.received + 1, passedThrough := s.passedThrough + 1 }
  else { s with received := s.received + 1, normalized := s.normalized + 1 }

/-- A stage between two of its suspension points: the event it has keyed and not yet put on its
output, its counters, how many deliveries it has reported to its observer, and whether a delivery has
failed because nobody receives. -/
structure Stage where
  phase : Phase
  holding : Option Event
  summary : Summary
  observed : Nat
  refused : Bool

namespace Stage

/-- A stage that has just been started. -/
def start : Stage := ⟨.running, none, ⟨0, 0, 0⟩, 0, false⟩

/-- The next step of a stage between its input and its output, or `none` while it waits for one of
them and after it has ended. -/
def step (b : KeyBuilder) (input output : Channel Event) (s : Stage) :
    Option (Channel Event × Channel Event × Stage) :=
  match s.phase, s.holding with
  | .running, some e => match output.offer e with
    | .sent output => some (input, output, { s with holding := none, observed := s.observed + 1 })
    | .full => none
    | .closed => some (input, output, { s with holding := none, phase := .draining, refused := true })
  | .running, none => match input.take with
    | .item e input =>
      some (input, output, { s with holding := some (b.assign e), summary := s.summary.count e })
    | .empty => none
    | .closed => some (input, output, { s with phase := .draining })
  | .draining, _ =>
    if output.senderOpen then some (input, output.closeSender, s)
    else some (input.dropReceiver, output, { s with phase := .closed })
  | .closed, _ => none

end Stage

/-! ## A stage with its surroundings -/

/-- A stage, its two channels, and the history of both: the events that the input has accepted and
those that have been received from the output. -/
structure Station where
  builder : KeyBuilder
  input : Channel Event
  output : Channel Event
  stage : Stage
  accepted : List Event
  delivered : List Event

namespace Station

/-- A new station. -/
def start (builder : KeyBuilder) (inCapacity outCapacity : Nat) : Station :=
  ⟨builder, .new inCapacity, .new outCapacity, .start, [], []⟩

/-- What the surroundings of a stage can do. -/
inductive Action where
  | send (e : Event)
  | receive
  | closeInput
  | dropOutput

/-- The answer to an action.  `dropped` says that the end it needs has been let go before. -/
inductive Reply where
  | done
  | sent
  | full
  | closed
  | event (e : Event)
  | empty
  | disconnected
  | dropped

/-- Performs an action. -/
def act (s : Station) : Action → Reply × Station
  | .send e =>
    if !s.input.senderOpen then (.dropped, s)
    else match s.input.offer e with
      | .sent input => (.sent, { s with input, accepted := s.accepted ++ [e] })
      | .full => (.full, s)
      | .closed => (.closed, s)
  | .receive =>
    if !s.output.receiverOpen then (.dropped, s)
    else match s.output.take with
      | .item e output => (.event e, { s with output, delivered := s.delivered ++ [e] })
      | .empty => (.empty, s)
      | .closed => (.disconnected, s)
  | .closeInput =>
    if s.input.senderOpen then (.done, { s with input := s.input.closeSender })
    else (.dropped, s)
  | .dropOutput =>
    if s.output.receiverOpen then (.done, { s with output := s.output.dropReceiver })
    else (.dropped, s)

/-- The next step of the stage. -/
def advance (s : Station) : Option Station :=
  (s.stage.step s.builder s.input s.output).map fun (input, output, stage) =>
    { s with input, output, stage }

/-- One step of the whole: an action from outside or a step of the stage. -/
inductive Step : Station → Station → Prop where
  | outside (s : Station) (a : Action) : Step s (s.act a).2
  | inside {s t : Station} (h : s.advance = some t) : Step s t

/-- What can be reached by any interleaving of steps. -/
inductive Reachable (builder : KeyBuilder) (inCapacity outCapacity : Nat) : Station → Prop where
  | start : Reachable builder inCapacity outCapacity (.start builder inCapacity outCapacity)
  | next {s t : Station} (h : Reachable builder inCapacity outCapacity s) (step : Step s t) :
      Reachable builder inCapacity outCapacity t

/-- Steps of the stage, as many as `fuel` allows. -/
def runFor : (fuel : Nat) → Station → Station
  | 0, s => s
  | fuel + 1, s => match s.advance with
    | some t => runFor fuel t
    | none => s

/-- A bound on the number of steps that the stage can make by itself: two for every event before it,
one for the event it holds, and those of its end. -/
def stepBound (s : Station) : Nat := 2 * s.input.queue.length + 5

/-- Lets the stage run until it waits or has ended. -/
def settle (s : Station) : Station := runFor s.stepBound s

/-- Receives until nothing more comes, letting the stage run in between. -/
def drain : (fuel : Nat) → Station → List Event × Station
  | 0, s => ([], s)
  | fuel + 1, s =>
    match s.settle.act .receive with
    | (.event e, t) =>
      let (rest, u) := drain fuel t
      (e :: rest, u)
    | (_, t) => ([], t)

/-- Closes the input and receives what is left. -/
def finish (s : Station) : List Event × Station :=
  let s := (s.act .closeInput).2
  drain (s.input.queue.length + s.output.queue.length + 2) s

end Station

end RequestKeys
