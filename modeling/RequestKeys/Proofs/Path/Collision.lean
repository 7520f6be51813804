import RequestKeys.Proofs.Path.Sanitized

/-!
# Paths with the same sanitized form

Without rules, two paths have the same sanitized form exactly if their cleaned forms have equally
many segments and at every place two segments that merge (`sanitize_eq_sanitize_iff`): the same
text, two identifiers of one kind, or an identifier and the bare placeholder of its kind.  Segments
can be compared place by place because a sanitized path, cut at its slashes, is what is substituted
for the segments of the cleaned one (`pieces_sanitize`).
-/

namespace RequestKeys.Path

open Split (pieces)

/-! ## Segments that merge -/

/-- No two kinds share a placeholder. -/
theorem Kind.placeholder_injective : Function.Injective Kind.placeholder := by
  intro k l h
  cases k <;> cases l <;> first | rfl | exact absurd h (by decide)

namespace Detection

variable {d : Detection} {last : Bool} {s t : List Char}

/-- Two segments that cannot be told apart once identifiers have given way to placeholders. -/
inductive Merges (d : Detection) (last : Bool) : List Char → List Char → Prop where
  | same (s : List Char) : Merges d last s s
  | kind {s t : List Char} {k : Kind} (hs : d.classify last s = some k)
      (ht : d.classify last t = some k) : Merges d last s t
  | left {s : List Char} {k : Kind} (hs : d.classify last s = some k)
      (plain : d.classify last k.placeholder = .none) : Merges d last s k.placeholder
  | right {t : List Char} {k : Kind} (ht : d.classify last t = some k)
      (plain : d.classify last k.placeholder = .none) : Merges d last k.placeholder t

theorem Merges.substitute_eq (h : d.Merges last s t) :
    d.substitute last s = d.substitute last t := by
  cases h with
  | same => rfl
  | kind hs ht => rw [substitute_of_classify hs, substitute_of_classify ht]
  | left hs plain =>
    rw [substitute_of_classify hs, substitute_of_classify_none plain]
  | right ht plain =>
    rw [substitute_of_classify ht, substitute_of_classify_none plain]

theorem merges_of_substitute_eq (h : d.substitute last s = d.substitute last t) :
    d.Merges last s t := by
  cases hs : d.classify last s with
  | some k =>
    rw [substitute_of_classify hs] at h
    cases ht : d.classify last t with
    | some l =>
      rw [substitute_of_classify ht] at h
      obtain rfl := Kind.placeholder_injective h
      exact .kind hs ht
    | none =>
      obtain rfl : k.placeholder = t := h.trans (substitute_of_classify_none ht)
      exact .left hs ht
  | none =>
    rw [substitute_of_classify_none hs] at h
    cases ht : d.classify last t with
    | some l =>
      obtain rfl : s = l.placeholder := h.trans (substitute_of_classify ht)
      exact .right ht hs
    | none =>
      obtain rfl : s = t := h.trans (substitute_of_classify_none ht)
      exact .same s

end Detection

/-! ## The substitution place by place -/

section SubstituteAll

variable {d : Detection} {es fs : List (List Char)}

theorem length_substituteAll (d : Detection) (es : List (List Char)) :
    (substituteAll d es).length = es.length := by
  induction es with
  | nil => rfl
  | cons e es ih => rw [substituteAll_cons, List.length_cons, List.length_cons, ih]

theorem getElem?_substituteAll (d : Detection) (es : List (List Char)) (i : Nat) :
    (substituteAll d es)[i]? = es[i]?.map (d.substitute (i + 1 == es.length)) := by
  induction es generalizing i with
  | nil => rfl
  | cons e es ih =>
    rw [substituteAll_cons]
    cases i with
    | zero => cases es <;> rfl
    | succ i =>
      have place : (i + 1 + 1 == (e :: es).length) = (i + 1 == es.length) := by simp
      rw [List.getElem?_cons_succ, List.getElem?_cons_succ, ih, place]

theorem substituteAll_eq_substituteAll_iff :
    substituteAll d es = substituteAll d fs ↔
      es.length = fs.length ∧ ∀ i s t, es[i]? = some s → fs[i]? = some t →
        d.Merges (i + 1 == es.length) s t := by
  constructor
  · intro h
    have long : es.length = fs.length := by
      rw [← length_substituteAll d es, h, length_substituteAll]
    refine ⟨long, fun i s t hs ht => ?_⟩
    have place : (substituteAll d es)[i]? = (substituteAll d fs)[i]? := by rw [h]
    rw [getElem?_substituteAll, getElem?_substituteAll, hs, ht, ← long] at place
    exact Detection.merges_of_substitute_eq (Option.some.inj place)
  · rintro ⟨long, merge⟩
    refine List.ext_getElem? fun i => ?_
    rw [getElem?_substituteAll, getElem?_substituteAll, ← long]
    cases hs : es[i]? with
    | none =>
      have out : fs[i]? = none := by
        rw [List.getElem?_eq_none_iff, ← long]
        exact List.getElem?_eq_none_iff.1 hs
      rw [out]
    | some s =>
      obtain ⟨within, -⟩ := List.getElem?_eq_some_iff.1 hs
      obtain ⟨t, ht⟩ : ∃ t, fs[i]? = some t :=
        ⟨fs.get ⟨i, long ▸ within⟩, List.getElem?_eq_getElem _⟩
      rw [ht]
      exact congrArg some (merge i s t hs ht).substitute_eq

end SubstituteAll

/-! ## The main statement -/

/-- Between the slashes of a sanitized path stands what is substituted for the segments of the
cleaned path. -/
theorem pieces_sanitize (s : Sanitizer) {path : List Char} (h : path ≠ []) :
    pieces '/' (s.sanitize path) =
      substituteAll s.detection (pieces '/' (clean (reroute s.rules path))) := by
  rw [sanitize_eq_spell s h, clean_eq_spell, Route.pieces_spell, Route.pieces_spell,
    Route.segments_substitute]

/-- Two paths have the same sanitized form exactly if they are cleaned to equally many segments,
which merge at every place. -/
theorem sanitize_eq_sanitize_iff (d : Detection) {p q : List Char} (hp : p ≠ []) (hq : q ≠ []) :
    Sanitizer.sanitize ⟨d, []⟩ p = Sanitizer.sanitize ⟨d, []⟩ q ↔
      (pieces '/' (clean p)).length = (pieces '/' (clean q)).length ∧
        ∀ i s t, (pieces '/' (clean p))[i]? = some s → (pieces '/' (clean q))[i]? = some t →
          d.Merges (i + 1 == (pieces '/' (clean p)).length) s t := by
  rw [← (Split.pieces_injective '/').eq_iff, pieces_sanitize _ hp, pieces_sanitize _ hq]
  exact substituteAll_eq_substituteAll_iff

/-- The address `::` merges with its bare placeholder, and `7` with `cafe`, but `7` not with `x`. -/
theorem sanitize_eq_sanitize_iff_address :
    let s : Sanitizer := ⟨.all, []⟩
    s.sanitize ['7', '/', ':', ':'] =
        s.sanitize ['c', 'a', 'f', 'e', '/', '.', '/', ':', 'i', 'p'] ∧
      s.sanitize ['7', '/', ':', ':'] ≠ s.sanitize ['x', '/', ':', ':'] := by
  intro s
  constructor
  · refine (sanitize_eq_sanitize_iff .all (by decide) (by decide)).2 ⟨by decide, ?_⟩
    intro i a b ha hb
    have cleaned : pieces '/' (clean ['7', '/', ':', ':']) = [['7'], [':', ':']] := by decide
    have cleaned' : pieces '/' (clean ['c', 'a', 'f', 'e', '/', '.', '/', ':', 'i', 'p']) =
        [['c', 'a', 'f', 'e'], Kind.ip.placeholder] := by decide
    rw [cleaned] at ha ⊢
    rw [cleaned'] at hb
    match i, ha, hb with
    | 0, rfl, rfl => exact .kind (k := .number) (by decide) (by decide)
    | 1, rfl, rfl => exact .left (by decide) (by decide)
  · intro same
    have merge := ((sanitize_eq_sanitize_iff .all (by decide) (by decide)).1 same).2 0 ['7'] ['x']
      (by decide) (by decide)
    exact absurd merge.substitute_eq (by decide)

end RequestKeys.Path
