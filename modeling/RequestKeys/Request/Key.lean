import RequestKeys.Path.Sanitizer
import RequestKeys.Request.Event

/-!
# Event keys

The key of an event is its method, its sanitized path and the values of one query parameter, with
colons between them.  Values are not escaped, so one that contains a colon makes the key ambiguous.
-/

namespace RequestKeys

/-- How keys are made: the sanitizer for paths, and the query parameter whose values are appended,
none if the name is empty. -/
structure KeyBuilder where
  sanitizer : Path.Sanitizer
  parameter : List Char

namespace KeyBuilder

/-- The values that go into the key of an event. -/
def values (b : KeyBuilder) (e : Event) : List (List Char) :=
  if b.parameter.isEmpty then [] else e.target.values b.parameter

/-- The key of an event. -/
def key (b : KeyBuilder) (e : Event) : List Char :=
  e.method ++ ':' :: (b.sanitizer.sanitize e.target.path ++ (b.values e).flatMap (':' :: ·))

/-- Gives an event a key unless it has one. -/
def assign (b : KeyBuilder) (e : Event) : Event :=
  if e.isKeyed then e else { e with key := b.key e }

end KeyBuilder

end RequestKeys
