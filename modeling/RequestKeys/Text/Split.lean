/-!
# Splitting lists at a separator
-/

namespace RequestKeys.Split

variable {α : Type} [DecidableEq α]

/-- The stretches between the occurrences of `sep`, one more than there are occurrences. -/
def pieces (sep : α) : List α → List (List α)
  | [] => [[]]
  | c :: rest =>
    if c = sep then [] :: pieces sep rest
    else match pieces sep rest with
      | [] => [[c]]
      | p :: ps => (c :: p) :: ps

/-- The parts before and after the first `sep`. -/
def cut (sep : α) : List α → Option (List α × List α)
  | [] => none
  | c :: rest =>
    if c = sep then some ([], rest)
    else (cut sep rest).map fun (head, tail) => (c :: head, tail)

/-- The part before the first `sep`, or everything. -/
def upTo (sep : α) (l : List α) : List α := l.takeWhile (· ≠ sep)

/-- The parts before and after the first occurrence of the list `mark`. -/
def cutAt (mark : List α) : List α → Option (List α × List α)
  | [] => if mark.isEmpty then some ([], []) else none
  | c :: rest =>
    if mark.isPrefixOf (c :: rest) then some ([], (c :: rest).drop mark.length)
    else (cutAt mark rest).map fun (head, tail) => (c :: head, tail)

/-- The parts laid end to end with `sep` between them. -/
def join (sep : α) : List (List α) → List α
  | [] => []
  | [p] => p
  | p :: ps => p ++ sep :: join sep ps

end RequestKeys.Split
