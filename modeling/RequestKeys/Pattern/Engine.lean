/-!
# Engines

Which texts are valid patterns, and where they match, is up to the engine that compiles them.  What
follows from its answers is defined for any engine.
-/

namespace RequestKeys.Pattern

/-- What compiles patterns: `compile?` gives the expression of a text, or nothing if the text is no
valid pattern.  An expression keeps the text that it has been compiled from. -/
structure Engine where
  Expression : Type
  compile? : List Char → Option Expression
  text : Expression → List Char
  occursIn : Expression → List Char → Bool
  text_of_compile? : ∀ {pattern x}, compile? pattern = some x → text x = pattern

/-- Whether a text is a valid pattern. -/
def Engine.isValid (E : Engine) (pattern : List Char) : Bool := (E.compile? pattern).isSome

end RequestKeys.Pattern
