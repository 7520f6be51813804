import RequestKeys.Flow.Feed
import RequestKeys.Flow.Sink
import RequestKeys.Request.Key

/-!
# Keys of a whole input at once

What a pipeline comes to, without tasks and channels: the lines of the input one after another.
-/

namespace RequestKeys.Batch

/-- The requests in an input, in order. -/
def requests (input : List UInt8) : List Event := (Line.split input).filterMap Line.read?

/-- How many lines of the input hold no request. -/
def skipped (input : List UInt8) : Nat := (Line.split input).countP fun l => (Line.read? l).isNone

/-- The requests in an input with their keys. -/
def keyed (b : KeyBuilder) (input : List UInt8) : List Event :=
  (requests input).map fun e => { e with key := b.key e }

/-- The text that is written for an input. -/
def output (b : KeyBuilder) (format : Format) (input : List UInt8) : List Char :=
  ((keyed b input).map format.line).flatten

end RequestKeys.Batch
