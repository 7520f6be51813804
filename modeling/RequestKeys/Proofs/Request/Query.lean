import RequestKeys.Proofs.Request.Line
import RequestKeys.Proofs.Text.Encoded
import RequestKeys.Request.Key

/-!
# Queries as lists of pairs

A query that is written from names and values is read back as the same pairs, in order and each as
often as it was there (`Target.pairs_ofPairs`): names and values have no ampersand and no equals sign
once they are encoded.  So a key has every value of its parameter and nothing else
(`KeyBuilder.key_of_query_eq_ofPairs`).
-/

namespace RequestKeys

open Percent (encodeForm)

namespace Target

variable {c : Char} {text : List Char}

theorem not_mem_encodeForm (other : c ≠ '+' ∧ c ≠ '%') (risky : ¬ Percent.isFormSafe c) :
    c ∉ encodeForm text := fun found =>
  (Percent.mem_encodeForm found).elim other.1 fun h => h.elim other.2 risky

/-- The piece of a query that is written for a name and a value. -/
def pieceOf (p : List Char × List Char) : List Char := encodeForm p.1 ++ '=' :: encodeForm p.2

theorem ofPairs_eq (ps : List (List Char × List Char)) :
    ofPairs ps = Split.join '&' (ps.map pieceOf) := rfl

theorem ampersand_not_mem_pieceOf (p : List Char × List Char) : '&' ∉ pieceOf p := by
  have bare {text : List Char} : '&' ∉ encodeForm text := not_mem_encodeForm (by decide) (by decide)
  simp [pieceOf, bare]

theorem not_isEmpty_pieceOf (p : List Char × List Char) : !(pieceOf p).isEmpty := by
  simp [pieceOf]

theorem pairOf_pieceOf (p : List Char × List Char) : pairOf (pieceOf p) = p := by
  have bare : '=' ∉ encodeForm p.1 := not_mem_encodeForm (by decide) (by decide)
  simp only [pairOf, pieceOf, Split.cut_append_cons bare, Percent.decodeForm_encodeForm]

/-- A query is read back as the pairs that it was written from. -/
theorem pairs_ofPairs (ps : List (List Char × List Char)) : pairs (ofPairs ps) = ps := by
  by_cases none : ps = []
  · subst none
    rfl
  have apart : ∀ piece ∈ ps.map pieceOf, '&' ∉ piece :=
    List.forall_mem_map.2 fun p _ => ampersand_not_mem_pieceOf p
  have kept : ∀ piece ∈ ps.map pieceOf, !piece.isEmpty :=
    List.forall_mem_map.2 fun p _ => not_isEmpty_pieceOf p
  have cutting : Split.pieces '&' (ofPairs ps) = ps.map pieceOf := by
    rw [ofPairs_eq, Split.pieces_join apart (by simpa using none)]
  rw [pairs, cutting, List.filter_eq_self.2 kept, List.map_map]
  exact (List.map_congr_left fun p _ => pairOf_pieceOf p).trans (List.map_id' ps)

end Target

namespace KeyBuilder

variable {e : Event} {ps : List (List Char × List Char)} {name : List Char}

/-- If the query of an event is written from pairs, the values of a parameter are those of the pairs
with its name, in order, and these are what a key has behind the sanitized path. -/
theorem key_of_query_eq_ofPairs (named : name ≠ [])
    (asked : e.target.query = some (Target.ofPairs ps)) :
    e.target.values name = (ps.filter (·.1 = name)).map (·.2) ∧
      ∀ b : KeyBuilder, b.parameter = name →
        b.key e = e.method ++ ':' :: (b.sanitizer.sanitize e.target.path ++
          ((ps.filter (·.1 = name)).map (·.2)).flatMap (':' :: ·)) := by
  have values : e.target.values name = (ps.filter (·.1 = name)).map (·.2) := by
    simp only [Target.values, asked, Target.pairs_ofPairs]
  refine ⟨values, ?_⟩
  rintro b rfl
  have asks : ¬ b.parameter.isEmpty := by simpa using named
  rw [key, KeyBuilder.values, if_neg asks, values]

/-- A repeated name with a space in it, separators and an escape in the values, and an empty pair. -/
theorem key_of_query_eq_ofPairs_repeated :
    let name : List Char := ['o', ' ', 'p']
    let ps : List (List Char × List Char) :=
      [(name, ['a', '&', 'b', '=', '+']), (['o', 'p'], ['x']), ([], []), (name, []),
        (name, ['é', '%', '2', '6'])]
    let query : List Char := Target.ofPairs ps
    let e : Event := ⟨['G', 'E', 'T'], ⟨['/', '4', '2'], some query⟩, []⟩
    name ≠ [] ∧ e.target.query = some (Target.ofPairs ps) ∧
      query = ['o', '+', 'p', '=', 'a', '%', '2', '6', 'b', '%', '3', 'D', '%', '2', 'B', '&',
        'o', 'p', '=', 'x', '&', '=', '&', 'o', '+', 'p', '=', '&', 'o', '+', 'p', '=', '%', 'C', '3',
        '%', 'A', '9', '%', '2', '5', '2', '6'] ∧
      key ⟨⟨.all, []⟩, name⟩ e = ['G', 'E', 'T', ':', '/', '0', ':', 'a', '&', 'b', '=', '+', ':',
        ':', 'é', '%', '2', '6'] := by
  intro name ps query e
  have named : name ≠ [] := by decide
  have read := (key_of_query_eq_ofPairs (e := e) named rfl).2 ⟨⟨.all, []⟩, name⟩ rfl
  exact ⟨named, rfl, by decide, read.trans (by decide)⟩

end KeyBuilder

end RequestKeys
