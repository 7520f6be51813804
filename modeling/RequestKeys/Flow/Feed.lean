import RequestKeys.Flow.Channel
import RequestKeys.Request.Line

/-!
# The feed

A task that reads octets line by line and sends the requests in the lines into a channel.  A line
ends before it is decoded, so octets that are no text spoil their own line only.
-/

namespace RequestKeys

namespace Line

/-- The octet that ends a line. -/
def lineFeed : UInt8 := 0x0A

/-- The octet that may come before it. -/
def carriageReturn : UInt8 := 0x0D

/-- The lines of an input; nothing after the last line feed is no line. -/
def split : List UInt8 → List (List UInt8)
  | [] => []
  | b :: rest =>
    if b = lineFeed then [] :: split rest
    else match split rest with
      | [] => [[b]]
      | line :: lines => (b :: line) :: lines

/-- The first line of what is unread, and what is unread after it. -/
def next? (unread : List UInt8) : Option (List UInt8 × List UInt8) :=
  if unread.isEmpty then none
  else some ((Split.cut lineFeed unread).getD (unread, []))

/-- A line without a carriage return at its end. -/
def trim (line : List UInt8) : List UInt8 :=
  if line.getLast? = some carriageReturn then line.dropLast else line

/-- The request in a line of octets. -/
def read? (line : List UInt8) : Option Event := parse? (Utf8.decode (trim line))

end Line

/-- A feed: the octets ahead of it, the event it has read and not yet sent, how many events it has
sent and how many lines held none, and whether it has ended. -/
structure Feed where
  unread : List UInt8
  holding : Option Event
  accepted : Nat
  skipped : Nat
  ended : Bool

namespace Feed

/-- A feed that has read nothing. -/
def start (input : List UInt8) : Feed := ⟨input, none, 0, 0, false⟩

/-- The next step of a feed into a channel, or `none` while it waits and after it has ended.  A feed
ends at the end of its input, or when a send fails because nobody receives; the event is lost then,
and counted nowhere. -/
def step (output : Channel Event) (f : Feed) : Option (Channel Event × Feed) :=
  if f.ended then none
  else match f.holding with
    | some e => match output.offer e with
      | .sent output => some (output, { f with holding := none, accepted := f.accepted + 1 })
      | .full => none
      | .closed => some (output.closeSender, { f with holding := none, ended := true })
    | none => match Line.next? f.unread with
      | none => some (output.closeSender, { f with ended := true })
      | some (line, unread) => match Line.read? line with
        | some e => some (output, { f with unread, holding := some e })
        | none => some (output, { f with unread, skipped := f.skipped + 1 })

end Feed

/-! ## A feed with its receiver -/

/-- A feed, its channel, and what has been received from it. -/
structure Intake where
  feed : Feed
  channel : Channel Event
  received : List Event

namespace Intake

/-- A new feed over an input. -/
def start (input : List UInt8) (capacity : Nat) : Intake := ⟨.start input, .new capacity, []⟩

/-- What the receiver can do. -/
inductive Action where
  | receive
  | drop

/-- The answer to an action. -/
inductive Reply where
  | done
  | event (e : Event)
  | empty
  | disconnected
  | dropped

/-- Performs an action. -/
def act (s : Intake) : Action → Reply × Intake
  | .receive =>
    if !s.channel.receiverOpen then (.dropped, s)
    else match s.channel.take with
      | .item e channel => (.event e, { s with channel, received := s.received ++ [e] })
      | .empty => (.empty, s)
      | .closed => (.disconnected, s)
  | .drop =>
    if s.channel.receiverOpen then (.done, { s with channel := s.channel.dropReceiver })
    else (.dropped, s)

/-- The next step of the feed. -/
def advance (s : Intake) : Option Intake :=
  (s.feed.step s.channel).map fun (channel, feed) => { s with channel, feed }

/-- One step of the whole: an action of the receiver or a step of the feed. -/
inductive Step : Intake → Intake → Prop where
  | outside (s : Intake) (a : Action) : Step s (s.act a).2
  | inside {s t : Intake} (h : s.advance = some t) : Step s t

/-- What can be reached by any interleaving of steps. -/
inductive Reachable (input : List UInt8) (capacity : Nat) : Intake → Prop where
  | start : Reachable input capacity (.start input capacity)
  | next {s t : Intake} (h : Reachable input capacity s) (step : Step s t) :
      Reachable input capacity t

/-- Steps of the feed, as many as `fuel` allows. -/
def runFor : (fuel : Nat) → Intake → Intake
  | 0, s => s
  | fuel + 1, s => match s.advance with
    | some t => runFor fuel t
    | none => s

/-- Lets the feed run until it waits or has ended; it makes at most two steps for a line, which has
an octet at least, and two more. -/
def settle (s : Intake) : Intake := runFor (2 * s.feed.unread.length + 3) s

/-- Receives until nothing more comes, letting the feed run in between. -/
def drain : (fuel : Nat) → Intake → List Event × Intake
  | 0, s => ([], s)
  | fuel + 1, s =>
    match s.settle.act .receive with
    | (.event e, t) =>
      let (rest, u) := drain fuel t
      (e :: rest, u)
    | (_, t) => ([], t)

/-- Receives what is left. -/
def finish (s : Intake) : List Event × Intake :=
  drain (s.feed.unread.length + s.channel.queue.length + 3) s

end Intake

end RequestKeys
