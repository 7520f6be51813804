import RequestKeys.Config.Value
import RequestKeys.Json.Value

/-!
# TOML documents

A document is built up statement by statement.  Tables remember how they came into being, because
that decides what may still be added to them.
-/

namespace RequestKeys.Toml

open Config (Value)

/-- How a table came into being: by a header of its own, as a part of the path of another header, or
as a part of a dotted key. -/
inductive Origin where
  | header
  | path
  | dotted
  deriving DecidableEq

/-- What a key is bound to: a value that nothing can be added to, a table, or the tables of an array,
newest first. -/
inductive Item where
  | value (v : Value)
  | table (origin : Origin) (entries : List (List Char × Item))
  | tables (newest : List (List Char × Item)) (before : List (List (List Char × Item)))

/-- The bindings of a table. -/
abbrev Entries := List (List Char × Item)

/-- A path of keys. -/
abbrev Path := List (List Char)

/-- The binding of a key. -/
def lookup (key : List Char) (entries : Entries) : Option Item :=
  (entries.find? (·.1 = key)).map (·.2)

/-- Applies a change to the table at the end of a path.  Tables on the way that are missing come into
being; of an array of tables the newest is meant.  A dotted key does not lead through a table that
has a header. -/
def updateAt (dotted : Bool) (change : Entries → Option Entries) :
    Path → Entries → Option Entries
  | [], entries => change entries
  | key :: path, entries => do
    let item ← match lookup key entries with
      | none =>
        let origin := if dotted then Origin.dotted else .path
        some (.table origin (← updateAt dotted change path []))
      | some (.table origin inner) =>
        if dotted ∧ origin = .header then none
        else some (.table origin (← updateAt dotted change path inner))
      | some (.tables newest before) =>
        some (.tables (← updateAt dotted change path newest) before)
      | some (.value _) => none
    some (Json.putMember key item entries)

/-- Splits a path before its last key. -/
def splitLast : Path → Option (Path × List Char)
  | [] => none
  | path => path.getLast?.map fun last => (path.dropLast, last)

/-- A header: its table must not have one yet, nor come from a dotted key. -/
def openTable (path : Path) (root : Entries) : Option Entries := do
  let (before, last) ← splitLast path
  updateAt false (fun entries =>
    match lookup last entries with
    | none => some (Json.putMember last (.table .header []) entries)
    | some (.table .path inner) => some (Json.putMember last (.table .header inner) entries)
    | some _ => none) before root

/-- A header of an array of tables: one more table. -/
def openArrayTable (path : Path) (root : Entries) : Option Entries := do
  let (before, last) ← splitLast path
  updateAt false (fun entries =>
    match lookup last entries with
    | none => some (Json.putMember last (.tables [] []) entries)
    | some (.tables newest older) =>
      some (Json.putMember last (.tables [] (newest :: older)) entries)
    | some _ => none) before root

/-- Binds a dotted key, whose last part must not be bound, in a table. -/
def bind (path : Path) (value : Value) (entries : Entries) : Option Entries := do
  let (before, last) ← splitLast path
  updateAt true (fun entries =>
    match lookup last entries with
    | none => some (Json.putMember last (.value value) entries)
    | some _ => none) before entries

/-- Binds a dotted key under the header it stands below. -/
def bindUnder (header path : Path) (value : Value) (root : Entries) : Option Entries :=
  updateAt false (bind path value) header root

mutual

/-- The value of a finished item. -/
def Item.toValue : Item → Value
  | .value v => v
  | .table _ entries => .table (entryValues entries)
  | .tables newest before => .list (tableValues before [.table (entryValues newest)])

def entryValues : List (List Char × Item) → Config.Table
  | [] => []
  | (key, item) :: rest => (key, item.toValue) :: entryValues rest

/-- The tables of an array in order; those read so far come after the ones ahead. -/
def tableValues : List (List (List Char × Item)) → List Value → List Value
  | [], read => read
  | entries :: rest, read => tableValues rest (.table (entryValues entries) :: read)

end

end RequestKeys.Toml
