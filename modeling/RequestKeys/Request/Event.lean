import RequestKeys.Request.Target

/-!
# Request events
-/

namespace RequestKeys

/-- An observed request: its method as received, its target, and the key it is classified under,
empty until it has one. -/
structure Event where
  method : List Char
  target : Target
  key : List Char
  deriving DecidableEq

namespace Event

/-- The event of a request that has no key yet. -/
def ofRequest (method target : List Char) : Event := ⟨method, .parse target, []⟩

/-- Whether the event has a key. -/
def isKeyed (e : Event) : Bool := !e.key.isEmpty

end Event

end RequestKeys
