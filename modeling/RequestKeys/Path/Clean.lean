import RequestKeys.Text.Split

/-!
# Lexical path cleaning

`clean` gives a slash-separated path its shortest spelling: repeated slashes collapse, `.` elements
vanish, and `..` removes the name before it, or vanishes at the root of a rooted path.
-/

namespace RequestKeys.Path

/-- The element for the current directory. -/
def dot : List Char := ['.']

/-- The element for the parent directory. -/
def dotDot : List Char := ['.', '.']

/-- One element applied to the elements kept so far, the last of them first. -/
def cleanStep (rooted : Bool) (kept : List (List Char)) (element : List Char) :
    List (List Char) :=
  if element = [] ∨ element = dot then kept
  else if element = dotDot then
    match kept with
    | last :: before => if last ≠ dotDot then before else if rooted then kept else dotDot :: kept
    | [] => if rooted then [] else [dotDot]
  else element :: kept

/-- The elements that cleaning keeps. -/
def cleanElements (rooted : Bool) (elements : List (List Char)) : List (List Char) :=
  (elements.foldl (cleanStep rooted) []).reverse

/-- The shortest spelling of a path.  It ends in a slash only if it is the root, and the empty path
is spelled `.`. -/
def clean (path : List Char) : List Char :=
  let rooted := path.head? = some '/'
  let kept := Split.join '/' (cleanElements rooted (Split.pieces '/' path))
  if rooted then '/' :: kept
  else if kept.isEmpty then dot
  else kept

end RequestKeys.Path
