import RequestKeys.Pattern.Engine
import RequestKeys.Pattern.Meaning
import RequestKeys.Pattern.Occurrence
import RequestKeys.Pattern.Reader
import RequestKeys.Pattern.Size

/-!
# Patterns

A pattern is a text together with the regular expression it stands for.  The patterns of this library
are those of its own engine: their property classes know the binary properties, the general categories
and the scripts with their extensions, but neither ages nor the classes of text segmentation.
-/

namespace RequestKeys

/-- A pattern that has been read. -/
structure Pattern where
  text : List Char
  regex : Pattern.Regex

namespace Pattern

/-- The pattern that a text spells, unless the text is malformed, has no meaning here or is too
large. -/
def ofText? (text : List Char) : Option Pattern := do
  let form ← readForm? text
  let (regex, _) ← form.meaning? .start
  guard (regex.size ≤ maxSize)
  some { text, regex }

/-- Whether the pattern matches somewhere in `text`. -/
def occursIn (p : Pattern) (text : List Char) : Bool := p.regex.occursIn text

theorem text_of_ofText? {text : List Char} {p : Pattern} (h : ofText? text = some p) :
    p.text = text := by
  obtain ⟨form, -, h⟩ := Option.bind_eq_some_iff.1 h
  obtain ⟨⟨regex, _⟩, -, h⟩ := Option.bind_eq_some_iff.1 h
  obtain ⟨-, -, h⟩ := Option.bind_eq_some_iff.1 h
  exact congrArg Pattern.text (Option.some.inj h).symm

/-- The engine of these patterns. -/
def engine : Engine where
  Expression := Pattern
  compile? := ofText?
  text := Pattern.text
  occursIn := Pattern.occursIn
  text_of_compile? := text_of_ofText?

end Pattern

end RequestKeys
