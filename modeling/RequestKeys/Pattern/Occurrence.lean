import RequestKeys.Pattern.Regex

/-!
# Occurrences of a regular expression

Whether an expression occurs in a text is found from sets of places.  A place is the number of
characters before it, a set of places is the natural number with these bits set, and an expression
takes the set of places where a match may begin to the set of places where it may then end.
-/

namespace RequestKeys.Pattern

/-- The numbers of the elements that satisfy `p`. -/
def places {α : Type} (p : α → Bool) : List α → Nat
  | [] => 0
  | a :: rest => 2 * places p rest + (if p a then 1 else 0)

/-- The neighbours of every place of a text. -/
def neighbours (before : Option Char) : List Char → List (Option Char × Option Char)
  | [] => [(before, none)]
  | c :: rest => (before, some c) :: neighbours (some c) rest

/-- Exactly `n` steps.  When a step changes nothing, no later one does. -/
def stepTimes (step : Nat → Nat) : Nat → Nat → Nat
  | 0, s => s
  | n + 1, s => let next := step s; if next = s then s else stepTimes step n next

/-- At most `n` steps. -/
def stepUpTo (step : Nat → Nat) : Nat → Nat → Nat
  | 0, s => s
  | n + 1, s => let next := s ||| step s; if next = s then s else stepUpTo step n next

mutual

/-- The places where a match that begins in `starts` can end. -/
def Regex.ends (text : List Char) (starts : Nat) : Regex → Nat
  | .empty => starts
  | .char c => (starts &&& places (· == c) text) <<< 1
  | .oneOf set => (starts &&& places set.holds text) <<< 1
  | .position p =>
    starts &&& places (fun (before, after) => p.holds before after) (neighbours none text)
  | .sequence parts => sequenceEnds text starts parts
  | .choice parts => choiceEnds text starts parts
  | .repetition part min max =>
    let step (s : Nat) := part.ends text s
    let required := stepTimes step min starts
    stepUpTo step (match max with | some m => m - min | none => text.length + 1) required
  | .capture part => part.ends text starts

def sequenceEnds (text : List Char) (starts : Nat) : List Regex → Nat
  | [] => starts
  | r :: rest => sequenceEnds text (r.ends text starts) rest

def choiceEnds (text : List Char) (starts : Nat) : List Regex → Nat
  | [] => 0
  | r :: rest => r.ends text starts ||| choiceEnds text starts rest

end

/-- Whether some stretch of the text matches. -/
def Regex.occursIn (r : Regex) (text : List Char) : Bool :=
  r.ends text ((1 <<< (text.length + 1)) - 1) != 0

end RequestKeys.Pattern
