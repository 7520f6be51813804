import Mathlib.Data.List.Induction
import Mathlib.Data.List.Nodup
import Mathlib.Data.List.TakeWhile
import RequestKeys.Config.Layer

/-!
# Assignments

A layer is a list of assignments of values to keys.  Each key leads into one entry of the table that
is made, and what an assignment does to that entry depends on nothing else.  So layers on top of an
empty table make an entry for every name that a key leads into, in the order in which these names
turn up, and its value comes from the assignments that lead into it (`apply_eq`).
-/

namespace RequestKeys.Config

/-! ## Keys -/

/-- The entry that a key leads into. -/
def entryOf (key : List Char) : List Char :=
  match stepsOf key with
  | .entry name :: _ => name
  | _ => []

/-- The way that a key leads below its entry. -/
def wayBelow (key : List Char) : List Step := (stepsOf key).tail

theorem stepsOf_eq (key : List Char) : stepsOf key = .entry (entryOf key) :: wayBelow key := by
  unfold entryOf wayBelow stepsOf
  dsimp only
  cases readSteps? (key.length + 1) (key.dropWhile isPathChar) with
  | none => rfl
  | some steps =>
    dsimp only
    split_ifs <;> rfl

/-- A key of letters, digits, underscores and hyphens is the name of an entry. -/
theorem stepsOf_of_isPathChar {key : List Char} (h : ∀ c ∈ key, isPathChar c = true) :
    stepsOf key = [.entry key] := by
  have all : key.takeWhile isPathChar = key := List.takeWhile_eq_self_iff.2 h
  have none_left : key.dropWhile isPathChar = [] := List.dropWhile_eq_nil_iff.2 h
  simp only [stepsOf, all, none_left, readSteps?]
  split_ifs <;> rfl

theorem entryOf_of_isPathChar {key : List Char} (h : ∀ c ∈ key, isPathChar c = true) :
    entryOf key = key := by
  rw [entryOf, stepsOf_of_isPathChar h]

theorem wayBelow_of_isPathChar {key : List Char} (h : ∀ c ∈ key, isPathChar c = true) :
    wayBelow key = [] := by
  rw [wayBelow, stepsOf_of_isPathChar h, List.tail_cons]

/-! ## Values -/

/-- A value without entries and items. -/
def Value.Plain (v : Value) : Prop := v.entries = [] ∧ v.items = []

theorem merge_of_not_table {old new : Value} (h : ∀ entries, new ≠ .table entries) :
    merge old new = new := by
  cases new with
  | table entries => exact absurd rfl (h entries)
  | _ => rfl

/-- A value below which nothing can be found gives way like no value at all. -/
theorem setAt_of_plain {old : Value} (h : old.Plain) (value : Value) (steps : List Step) :
    setAt value steps old = setAt value steps .nil := by
  have entries : old.entries = Value.nil.entries := h.1
  have items : old.items = Value.nil.items := h.2
  cases steps with
  | nil =>
    cases value with
    | table new => simp only [setAt, merge, entries]
    | _ => rfl
  | cons step steps => cases step <;> simp only [setAt, entries, items]

/-! ## What assignments make of an entry -/

/-- What the assignments of a layer make of the value of an entry. -/
def settle (name : List Char) (old : Value) (layer : Table) : Value :=
  layer.foldl (fun old a => if entryOf a.1 = name then setAt a.2 (wayBelow a.1) old else old) old

/-- An assignment of the layer leads into the entry. -/
def Sets (layer : Table) (name : List Char) : Prop := ∃ a ∈ layer, entryOf a.1 = name

instance (layer : Table) (name : List Char) : Decidable (Sets layer name) :=
  inferInstanceAs (Decidable (∃ a ∈ layer, entryOf a.1 = name))

section Settle

variable {name : List Char} {old : Value} {layer other : Table} {a : List Char × Value}

theorem settle_append (name : List Char) (old : Value) (layer other : Table) :
    settle name old (layer ++ other) = settle name (settle name old layer) other :=
  List.foldl_append

theorem settle_cons_of_eq (h : entryOf a.1 = name) :
    settle name old (a :: layer) = settle name (setAt a.2 (wayBelow a.1) old) layer := by
  rw [settle, List.foldl_cons, if_pos h]
  rfl

theorem settle_cons_of_ne (h : entryOf a.1 ≠ name) :
    settle name old (a :: layer) = settle name old layer := by
  rw [settle, List.foldl_cons, if_neg h]
  rfl

theorem sets_cons : Sets (a :: layer) name ↔ entryOf a.1 = name ∨ Sets layer name :=
  List.exists_mem_cons_iff ..

theorem sets_append : Sets (layer ++ other) name ↔ Sets layer name ∨ Sets other name := by
  simp only [Sets, List.mem_append, or_and_right, exists_or]

theorem settle_of_not_sets (h : ¬ Sets layer name) : settle name old layer = old := by
  induction layer generalizing old with
  | nil => rfl
  | cons a layer ih =>
    rw [sets_cons, not_or] at h
    rw [settle_cons_of_ne h.1, ih h.2]

/-- Where a layer leads into an entry, a plain value before does not matter. -/
theorem settle_of_plain (plain : old.Plain) (h : Sets layer name) :
    settle name old layer = settle name .nil layer := by
  induction layer with
  | nil =>
    obtain ⟨a, ha, -⟩ := h
    cases ha
  | cons a layer ih =>
    by_cases here : entryOf a.1 = name
    · rw [settle_cons_of_eq here, settle_cons_of_eq here, setAt_of_plain plain]
    · rw [settle_cons_of_ne here, settle_cons_of_ne here]
      exact ih ((sets_cons.1 h).resolve_left here)

/-- The assignments of a layer that lead into an entry. -/
def leading (name : List Char) (layer : Table) : Table := layer.filter fun a => entryOf a.1 = name

end Settle

/-! ## The entries that assignments make -/

/-- A name added at the end, if it is not among the names. -/
def addName (names : List (List Char)) (name : List Char) : List (List Char) :=
  if name ∈ names then names else names ++ [name]

/-- The entries that keys lead into, in the order in which they turn up. -/
def entriesOf (keys : List (List Char)) : List (List Char) :=
  keys.foldl (fun names key => addName names (entryOf key)) []

theorem mem_addName {names : List (List Char)} {name other : List Char} :
    other ∈ addName names name ↔ other ∈ names ∨ other = name := by
  unfold addName
  split_ifs with known
  · exact ⟨.inl, fun h => h.elim id (· ▸ known)⟩
  · rw [List.mem_append, List.mem_singleton]

theorem nodup_addName {names : List (List Char)} (h : names.Nodup) (name : List Char) :
    (addName names name).Nodup := by
  unfold addName
  split_ifs with known
  · exact h
  · exact List.nodup_append.2 ⟨h, List.nodup_singleton _, by
      rintro x hx y hy rfl
      exact known (List.mem_singleton.1 hy ▸ hx)⟩

theorem entriesOf_concat (keys : List (List Char)) (key : List Char) :
    entriesOf (keys ++ [key]) = addName (entriesOf keys) (entryOf key) := by
  rw [entriesOf, List.foldl_append]
  rfl

theorem nodup_entriesOf (keys : List (List Char)) : (entriesOf keys).Nodup := by
  induction keys using List.reverseRecOn with
  | nil => exact List.nodup_nil
  | append_singleton keys key ih =>
    rw [entriesOf_concat]
    exact nodup_addName ih _

theorem mem_entriesOf {layer : Table} {name : List Char} :
    name ∈ entriesOf (layer.map (·.1)) ↔ Sets layer name := by
  induction layer using List.reverseRecOn with
  | nil => simp [entriesOf, Sets]
  | append_singleton layer a ih =>
    rw [List.map_append, List.map_singleton, entriesOf_concat, mem_addName, ih, sets_append]
    simp [Sets, eq_comm]

/-- Putting a member into a list of members with distinct names changes the value of one name. -/
theorem putMember_map {names : List (List Char)} (h : names.Nodup) (name : List Char) (value : Value)
    (values : List Char → Value) :
    Json.putMember name value (names.map fun n => (n, values n)) =
      (addName names name).map fun n => (n, if n = name then value else values n) := by
  induction names with
  | nil => simp [Json.putMember, addName]
  | cons n names ih =>
    rw [List.nodup_cons] at h
    have rest := ih h.2
    rw [List.map_cons, Json.putMember]
    by_cases here : n = name
    · subst here
      have others : ∀ m ∈ names, (m, values m) = (m, if m = n then value else values m) :=
        fun m hm => by rw [if_neg]; rintro rfl; exact h.1 hm
      simp only [addName, List.mem_cons_self, if_true, List.map_cons]
      rw [List.map_congr_left others]
    · rw [if_neg here, rest]
      by_cases there : name ∈ names <;> simp [addName, there, here, Ne.symm here]

theorem get?_map (names : List (List Char)) (values : List Char → Value) (name : List Char) :
    Table.get? (names.map fun n => (n, values n)) name =
      if name ∈ names then some (values name) else none := by
  unfold Table.get?
  induction names with
  | nil => rfl
  | cons n names ih =>
    rw [List.map_cons, List.find?_cons]
    by_cases here : n = name
    · simp [here]
    · simp only [here, decide_false, ih, List.mem_cons, Ne.symm here, false_or]

/-- The table that layers make has an entry for each name that a key leads into, with the value that
the assignments make of it. -/
theorem apply_eq (layer : Table) :
    apply (.table []) layer =
      .table ((entriesOf (layer.map (·.1))).map fun n => (n, settle n .nil layer)) := by
  induction layer using List.reverseRecOn with
  | nil => rfl
  | append_singleton layer a ih =>
    have before : (Table.get? ((entriesOf (layer.map (·.1))).map fun n =>
        (n, settle n .nil layer)) (entryOf a.1)).getD .nil = settle (entryOf a.1) .nil layer := by
      rw [get?_map]
      split_ifs with known
      · rfl
      · rw [mem_entriesOf] at known
        rw [settle_of_not_sets known]
        rfl
    have last : apply (.table []) (layer ++ [a]) =
        setAt a.2 (stepsOf a.1) (apply (.table []) layer) := by
      rw [apply, List.foldl_append]
      rfl
    rw [last, ih, stepsOf_eq, setAt, Value.entries, before,
      putMember_map (nodup_entriesOf _), List.map_append, List.map_singleton, entriesOf_concat]
    congr 1
    refine List.map_congr_left fun n _ => ?_
    rw [settle_append]
    by_cases here : n = entryOf a.1
    · rw [if_pos here, settle_cons_of_eq here.symm, here]
      rfl
    · rw [if_neg here, settle_cons_of_ne (Ne.symm here)]
      rfl

/-- The value of an entry comes from the assignments that lead into it. -/
theorem mem_entries_apply {layer : Table} {name : List Char} {value : Value} :
    (name, value) ∈ (apply (.table []) layer).entries ↔
      Sets layer name ∧ value = settle name .nil layer := by
  rw [apply_eq, Value.entries, List.mem_map]
  constructor
  · rintro ⟨n, hn, same⟩
    obtain ⟨rfl, rfl⟩ := Prod.mk.inj same
    exact ⟨mem_entriesOf.1 hn, rfl⟩
  · rintro ⟨set, rfl⟩
    exact ⟨name, mem_entriesOf.2 set, rfl⟩

theorem apply_append (base : Value) (layer other : Table) :
    apply base (layer ++ other) = apply (apply base layer) other :=
  List.foldl_append

end RequestKeys.Config
