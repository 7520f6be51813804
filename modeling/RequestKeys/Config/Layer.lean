import RequestKeys.Config.Value

/-!
# Layers of configuration

A configuration is put together from layers, each of which sets values in the table that the layers
below it have made.  A key of a layer is a path into that table, and tables are merged entry by entry.
-/

namespace RequestKeys.Config

/-- A step into a value: to an entry of a table, or to an item of a list, counted from the end if the
index is negative. -/
inductive Step where
  | entry (key : List Char)
  | index (i : Int)

/-- What may stand in a part of a path. -/
def isPathChar (c : Char) : Bool := c.isAlphanum || c == '_' || c == '-'

/-- The steps of a path after its first name: `.name` and `[index]`. -/
def readSteps? : (fuel : Nat) → List Char → Option (List Step)
  | 0, _ => none
  | _ + 1, [] => some []
  | fuel + 1, '.' :: rest =>
    let name := rest.takeWhile isPathChar
    if name.isEmpty then none
    else do some (.entry name :: (← readSteps? fuel (rest.dropWhile isPathChar)))
  | fuel + 1, '[' :: rest => do
    let (negative, digits) := match rest with
      | '-' :: digits => (true, digits)
      | digits => (false, digits)
    let read := digits.takeWhile isDigit
    match digits.dropWhile isDigit with
    | ']' :: rest =>
      if read.isEmpty then none
      else
        let n : Int := digitsValue 10 read
        some (.index (if negative then -n else n) :: (← readSteps? fuel rest))
    | _ => none
  | _ + 1, _ => none

/-- The path that a key spells; one that spells none is a name as a whole. -/
def stepsOf (key : List Char) : List Step :=
  let name := key.takeWhile isPathChar
  match readSteps? (key.length + 1) (key.dropWhile isPathChar) with
  | some steps => if name.isEmpty then [.entry key] else .entry name :: steps
  | none => [.entry key]

/-- The entries of a table; anything else counts as an empty one. -/
def Value.entries : Value → Table
  | .table entries => entries
  | _ => []

/-- The items of a list; anything else counts as an empty one. -/
def Value.items : Value → List Value
  | .list items => items
  | _ => []

/-- The value of a key. -/
def Table.get? (t : Table) (key : List Char) : Option Value := (t.find? (·.1 = key)).map (·.2)

mutual

/-- A value set over an old one: a table is merged into it, anything else takes its place. -/
def merge (old : Value) : Value → Value
  | .table entries => .table (mergeEntries old.entries entries)
  | new => new

def mergeEntries (old : Table) : List (List Char × Value) → Table
  | [] => old
  | (key, value) :: rest =>
    mergeEntries (Json.putMember key (merge ((Table.get? old key).getD .nil) value) old) rest

end

/-- A list with its `i`-th item changed; items that are missing before it come into being. -/
def changeItem (i : Int) (change : Value → Value) (items : List Value) : List Value :=
  if i ≥ 0 ∨ i.natAbs ≤ items.length then
    let place := if i ≥ 0 then i.toNat else items.length - i.natAbs
    let padded := items ++ List.replicate (place + 1 - items.length) .nil
    padded.take place ++ change (padded[place]?.getD .nil) :: padded.drop (place + 1)
  else
    let added := i.natAbs - items.length
    change .nil :: (List.replicate (added - 1) .nil ++ items)

/-- Sets a value at the end of a path.  What stands in the way of a step gives way to it. -/
def setAt (value : Value) : List Step → Value → Value
  | [], old => merge old value
  | .entry key :: steps, old =>
    let entries := old.entries
    .table (Json.putMember key (setAt value steps ((Table.get? entries key).getD .nil)) entries)
  | .index i :: steps, old => .list (changeItem i (setAt value steps) old.items)

/-- A layer on top of what the layers below have made. -/
def apply (base : Value) (layer : Table) : Value :=
  layer.foldl (fun base (key, value) => setAt value (stepsOf key) base) base

end RequestKeys.Config
