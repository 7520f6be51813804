import RequestKeys.Path.Clean
import RequestKeys.Path.Rule
import RequestKeys.Path.Segment

/-!
# Path sanitizing

A path is sent through the rules as a whole and cleaned, and then every segment that is recognised as
an identifier gives way to the placeholder of its kind, so that paths that only differ in
identifiers become one.
-/

namespace RequestKeys.Path

/-- What a sanitizer goes by. -/
structure Sanitizer where
  detection : Detection
  rules : List Rule

/-- The substitution in every segment, the last of which is marked. -/
def substituteAll (d : Detection) : List (List Char) → List (List Char)
  | [] => []
  | [last] => [d.substitute true last]
  | segment :: rest => d.substitute false segment :: substituteAll d rest

/-- The sanitized form of a path; the empty path is the root, whatever the rules. -/
def Sanitizer.sanitize (s : Sanitizer) (path : List Char) : List Char :=
  if path.isEmpty then ['/']
  else
    let cleaned := clean (reroute s.rules path)
    Split.join '/' (substituteAll s.detection (Split.pieces '/' cleaned))

end RequestKeys.Path
