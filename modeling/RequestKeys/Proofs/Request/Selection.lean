import RequestKeys.Proofs.Text.Split
import RequestKeys.Request.Key

/-!
# What a key takes from a query

A key has the values of the pieces of a query that are named for its parameter, and no more of the
query (`KeyBuilder.key_withQuery_eq_of_named_eq`).  Cutting a query at an ampersand cuts its pieces
in two lists, so a piece of another name can be put anywhere between two pieces, or taken away, and
the key stays the same, however malformed the piece and the rest of the query are
(`KeyBuilder.key_withQuery_of_inserted`).
-/

namespace RequestKeys

open Split (pieces)

namespace Target

variable {name piece query query' before after : List Char}

/-! ## Pieces and their names -/

/-- The name of a piece: what stands before its first equals sign, or all of it, decoded. -/
def nameOf (piece : List Char) : List Char := Percent.decodeForm (Split.upTo '=' piece)

/-- The pieces of a query that have a name, in order. -/
def named (name query : List Char) : List (List Char) :=
  (pieces '&' query).filter (nameOf · = name)

/-- A query with a piece put between two of its pieces, before the first or behind the last. -/
inductive Inserted (piece : List Char) : List Char → List Char → Prop where
  | only : Inserted piece [] piece
  | first (query : List Char) : Inserted piece query (piece ++ '&' :: query)
  | last (query : List Char) : Inserted piece query (query ++ '&' :: piece)
  | between (before after : List Char) :
    Inserted piece (before ++ '&' :: after) (before ++ '&' :: (piece ++ '&' :: after))

theorem pairOf_fst (piece : List Char) : (pairOf piece).1 = nameOf piece := by
  unfold pairOf nameOf
  cases cutting : Split.cut '=' piece with
  | none => rw [Split.upTo_eq_self (Split.cut_eq_none_iff.1 cutting)]
  | some parts =>
    obtain ⟨rfl, bare⟩ := Split.cut_eq_some_iff.1 cutting
    rw [Split.upTo_append_cons bare]

theorem nameOf_nil : nameOf [] = [] := rfl

theorem named_append_cons (name before after : List Char) :
    named name (before ++ '&' :: after) = named name before ++ named name after := by
  simp only [named, Split.pieces_append_cons, List.filter_append]

theorem named_of_ne (bare : '&' ∉ piece) (other : nameOf piece ≠ name) : named name piece = [] := by
  rw [named, Split.pieces_eq_singleton bare]
  simp [other]

/-- A piece of another name is not among those of the name, wherever it is put. -/
theorem Inserted.named_eq (h : Inserted piece query query') (asked : name ≠ [])
    (bare : '&' ∉ piece) (other : nameOf piece ≠ name) : named name query' = named name query := by
  have missing : named name piece = [] := named_of_ne bare other
  cases h with
  | only =>
    have empty : named name [] = [] := named_of_ne List.not_mem_nil (nameOf_nil ▸ asked.symm)
    rw [missing, empty]
  | first => rw [named_append_cons, missing, List.nil_append]
  | last => rw [named_append_cons, missing, List.append_nil]
  | between =>
    rw [named_append_cons, named_append_cons, named_append_cons, missing, List.nil_append]

/-! ## Values -/

/-- The values of a parameter are those of the pieces with its name; an empty piece has no name, so
that it makes no difference that it is left out before. -/
theorem map_pairs_eq (asked : name ≠ []) (query : List Char) :
    ((pairs query).filter (·.1 = name)).map (·.2) =
      (named name query).map fun piece => (pairOf piece).2 := by
  have kept : ∀ piece ∈ pieces '&' query,
      (!piece.isEmpty && decide ((pairOf piece).1 = name)) = decide (nameOf piece = name) := by
    intro piece _
    rw [pairOf_fst]
    cases piece with
    | nil => simp [nameOf_nil, asked.symm]
    | cons c rest => simp
  rw [pairs, List.filter_map, List.filter_filter, List.map_map, named]
  congr 1
  refine List.filter_congr fun piece found => ?_
  rw [← kept piece found, Bool.and_comm]
  rfl

end Target

/-- An event with another query. -/
def Event.withQuery (e : Event) (query : Option (List Char)) : Event :=
  { e with target := { e.target with query } }

namespace KeyBuilder

open Target (nameOf named Inserted)

variable {b : KeyBuilder} {query query' : List Char}

theorem values_of_parameter_eq_nil (h : b.parameter = []) (e : Event) : b.values e = [] := by
  simp [values, h]

theorem values_withQuery_none (b : KeyBuilder) (e : Event) : b.values (e.withQuery none) = [] := by
  simp [values, Event.withQuery, Target.values]

theorem values_withQuery (asked : b.parameter ≠ []) (e : Event) (query : List Char) :
    b.values (e.withQuery (some query)) =
      (named b.parameter query).map fun piece => (Target.pairOf piece).2 := by
  rw [values, if_neg (by simpa using asked)]
  exact Target.map_pairs_eq asked query

theorem key_withQuery (b : KeyBuilder) (e : Event) (query : Option (List Char)) :
    b.key (e.withQuery query) = e.method ++ ':' ::
      (b.sanitizer.sanitize e.target.path ++ (b.values (e.withQuery query)).flatMap (':' :: ·)) :=
  rfl

/-- Two queries with the same pieces of the parameter's name give the same key. -/
theorem key_withQuery_eq_of_named_eq (e : Event)
    (h : b.parameter ≠ [] → named b.parameter query = named b.parameter query') :
    b.key (e.withQuery (some query)) = b.key (e.withQuery (some query')) := by
  rw [key_withQuery, key_withQuery]
  by_cases asked : b.parameter = []
  · rw [values_of_parameter_eq_nil asked, values_of_parameter_eq_nil asked]
  · rw [values_withQuery asked, values_withQuery asked, h asked]

/-- A piece whose name is not that of the parameter can be put into a query, taken out of it and
moved from one place to another, and can be the whole query or none, with the same key; and without
a parameter all queries, and none, give the same key. -/
theorem key_withQuery_of_inserted (b : KeyBuilder) (e : Event) :
    (∀ piece, '&' ∉ piece → nameOf piece ≠ b.parameter →
      (∀ query query', Inserted piece query query' →
        b.key (e.withQuery (some query')) = b.key (e.withQuery (some query))) ∧
      (∀ query here there, Inserted piece query here → Inserted piece query there →
        b.key (e.withQuery (some here)) = b.key (e.withQuery (some there))) ∧
      b.key (e.withQuery none) = b.key (e.withQuery (some piece))) ∧
    (b.parameter = [] →
      ∀ query query', b.key (e.withQuery query) = b.key (e.withQuery query')) := by
  refine ⟨fun piece bare other => ?_, fun unasked query query' => ?_⟩
  · have insertion : ∀ query query', Inserted piece query query' →
        b.key (e.withQuery (some query')) = b.key (e.withQuery (some query)) :=
      fun query query' placed =>
        key_withQuery_eq_of_named_eq e fun asked => placed.named_eq asked bare other
    refine ⟨insertion, fun query here there placed placed' => ?_, ?_⟩
    · rw [insertion query here placed, insertion query there placed']
    · rw [key_withQuery, key_withQuery, values_withQuery_none]
      by_cases asked : b.parameter = []
      · rw [values_of_parameter_eq_nil asked]
      · rw [values_withQuery asked, Target.named_of_ne bare other, List.map_nil]
  · rw [key_withQuery, key_withQuery, values_of_parameter_eq_nil unasked,
      values_of_parameter_eq_nil unasked]

/-- A piece whose name goes on after an escaped letter of the parameter, in octets that are no text,
between broken and empty pieces. -/
theorem key_withQuery_of_inserted_malformed :
    let b : KeyBuilder := ⟨⟨.all, []⟩, ['o', 'p']⟩
    let e : Event := ⟨['G', 'E', 'T'], ⟨['/', '7'], none⟩, []⟩
    let piece : List Char := ['%', '6', 'f', 'p', '%', 'F', 'F', '=', 'c', '=', '%']
    let before : List Char := ['o', 'p', '=', 'a', '%', 'z']
    let after : List Char := ['&', '=', '&', '%', '6', 'f', 'p', '=', '+']
    '&' ∉ piece ∧ nameOf piece ≠ b.parameter ∧
      b.key (e.withQuery (some (before ++ '&' :: (piece ++ '&' :: after)))) =
        ['G', 'E', 'T', ':', '/', '0', ':', 'a', '%', 'z', ':', ' '] ∧
      b.key (e.withQuery (some piece)) = ['G', 'E', 'T', ':', '/', '0'] ∧
      ∀ query, (⟨⟨.all, []⟩, []⟩ : KeyBuilder).key (e.withQuery query) =
        ['G', 'E', 'T', ':', '/', '0'] := by
  intro b e piece before after
  have bare : '&' ∉ piece := by decide
  have other : nameOf piece ≠ b.parameter := by decide
  obtain ⟨insertion, -, alone⟩ := (key_withQuery_of_inserted b e).1 piece bare other
  refine ⟨bare, other, ?_, ?_, fun query => ?_⟩
  · rw [insertion _ _ (.between before after)]
    decide
  · rw [← alone]
    decide
  · rw [(key_withQuery_of_inserted ⟨⟨.all, []⟩, []⟩ e).2 rfl query none]
    decide

end KeyBuilder

end RequestKeys
