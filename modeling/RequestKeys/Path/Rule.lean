/-!
# Rules for whole paths

A rule sends every path in which its pattern occurs to one literal path.  Rules run in order, each on
the result of the one before.
-/

namespace RequestKeys.Path

/-- A rule: its pattern as a text and as a predicate on paths, and what replaces a path. -/
structure Rule where
  pattern : List Char
  accepts : List Char → Bool
  replacement : List Char

/-- The replacement if the rule accepts the path, else the path. -/
def Rule.apply (r : Rule) (path : List Char) : List Char :=
  if r.accepts path then r.replacement else path

/-- Where all rules in order send a path. -/
def reroute (rules : List Rule) (path : List Char) : List Char :=
  rules.foldl (fun path r => r.apply path) path

end RequestKeys.Path
