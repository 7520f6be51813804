import Mathlib.Data.List.Basic
import RequestKeys.Proofs.Path.Sanitized

/-!
# Interchangeable identifiers

A path in which one identifier stands in the place of another of the same kind has the same sanitized
form (`sanitize_eq_of_classify_eq`), whatever comes before and after it.  The routes of the two paths
differ in one name at most, and in names that give way to the same text wherever they come to stand
(`Route.Alike`); later elements may take the name away again, on both routes or on neither.
-/

namespace RequestKeys.Path

open Split (pieces join)

/-! ## Names that give way to the same text -/

section StandIns

variable {d : Detection} {k : Kind} {s t : List Char} {ns ms : List (List Char)}

/-- What stands for a name in front of other segments and as the last of them. -/
def Detection.standIns (d : Detection) (name : List Char) : Bool → List Char :=
  fun last => d.substitute last name

/-- A kind that is found in front of other segments is found in the last one too. -/
theorem Detection.classify_true_of_classify_false (h : d.classify false s = some k) :
    d.classify true s = some k := by
  simp only [classify, Bool.false_and, Bool.false_eq_true, if_false] at h
  unfold classify
  split_ifs at h ⊢ <;> exact h

theorem Detection.standIns_eq_of_classify (hs : d.classify false s = some k)
    (ht : d.classify false t = some k) : d.standIns s = d.standIns t := by
  funext last
  unfold standIns
  cases last with
  | false => rw [substitute_of_classify hs, substitute_of_classify ht]
  | true =>
    rw [substitute_of_classify (classify_true_of_classify_false hs),
      substitute_of_classify (classify_true_of_classify_false ht)]

/-- A segment that is recognised as an identifier is a name. -/
theorem Detection.isName_of_classify {last : Bool} (h : d.classify last s = some k)
    (slash : '/' ∉ s) : IsName s := by
  have moved : d.substitute last s = k.placeholder := substitute_of_classify h
  have name := isName_placeholder k
  refine ⟨?_, ?_, ?_, slash⟩
  · rintro rfl
    rw [d.substitute_of_points last (.inl rfl)] at moved
    exact name.ne_nil moved.symm
  · rintro rfl
    rw [d.substitute_of_points last (.inr (.inl rfl))] at moved
    exact name.ne_dot moved.symm
  · rintro rfl
    rw [d.substitute_of_points last (.inr (.inr rfl))] at moved
    exact name.ne_dotDot moved.symm

theorem substituteAll_eq_of_standIns_eq (h : ns.map d.standIns = ms.map d.standIns) :
    substituteAll d ns = substituteAll d ms := by
  induction ns generalizing ms with
  | nil => rw [List.map_eq_nil_iff.1 h.symm]
  | cons n ns ih =>
    obtain ⟨m, ms, rfl⟩ := List.exists_cons_of_ne_nil (l := ms) (by rintro rfl; cases h)
    obtain ⟨first, rest⟩ := List.cons.inj h
    have alone : ns.isEmpty = ms.isEmpty := by
      have same := congrArg List.isEmpty rest
      rwa [List.isEmpty_map, List.isEmpty_map] at same
    rw [substituteAll_cons, substituteAll_cons, ih rest, alone]
    exact congrArg (· :: _) (congrFun first ms.isEmpty)

theorem substituteAll_concat (d : Detection) (ns : List (List Char)) (s : List Char) :
    substituteAll d (ns ++ [s]) = ns.map (d.substitute false) ++ [d.substitute true s] := by
  induction ns with
  | nil => rfl
  | cons n ns ih =>
    have before : (ns ++ [s]).isEmpty = false := by simp
    rw [List.cons_append, substituteAll_cons, ih, before]
    rfl

end StandIns

/-! ## Routes that differ in such names -/

namespace Route

variable {d : Detection} {r q : Route} {n m : List Char}

/-- Two routes that only differ in names for which the same texts stand. -/
structure Alike (d : Detection) (r q : Route) : Prop where
  rooted_eq : r.rooted = q.rooted
  ups_eq : r.ups = q.ups
  names_eq : r.names.map d.standIns = q.names.map d.standIns

theorem Alike.refl (d : Detection) (r : Route) : Alike d r r := ⟨rfl, rfl, rfl⟩

theorem Alike.descend (h : Alike d r q) (hn : IsName n) (hm : IsName m)
    (same : d.standIns n = d.standIns m) : Alike d (r.descend n hn) (q.descend m hm) := by
  refine ⟨h.rooted_eq, h.ups_eq, ?_⟩
  show (r.names ++ [n]).map d.standIns = (q.names ++ [m]).map d.standIns
  rw [List.map_append, List.map_append, h.names_eq, List.map_singleton, List.map_singleton, same]

/-- Going back takes a name from both routes or from neither. -/
theorem Alike.climb (h : Alike d r q) : Alike d r.climb q.climb := by
  have together : r.names = [] ↔ q.names = [] := by
    rw [← List.map_eq_nil_iff (f := d.standIns), h.names_eq, List.map_eq_nil_iff]
  unfold Route.climb
  by_cases none : r.names = []
  · rw [if_pos none, if_pos (together.1 none)]
    by_cases root : r.rooted = true
    · rw [dif_pos root, dif_pos (h.rooted_eq ▸ root)]
      exact h
    · rw [dif_neg root, dif_neg (h.rooted_eq ▸ root)]
      exact ⟨h.rooted_eq, congrArg (· + 1) h.ups_eq, h.names_eq⟩
  · rw [if_neg none, if_neg (mt together.2 none)]
    refine ⟨h.rooted_eq, h.ups_eq, ?_⟩
    show r.names.dropLast.map d.standIns = q.names.dropLast.map d.standIns
    rw [List.map_dropLast, List.map_dropLast, h.names_eq]

theorem Alike.step (h : Alike d r q) (e : List Char) : Alike d (r.step e) (q.step e) := by
  unfold Route.step
  split_ifs with name back
  · exact h.descend name name rfl
  · exact h.climb
  · exact h

theorem Alike.foldl_step (h : Alike d r q) (es : List (List Char)) :
    Alike d (es.foldl Route.step r) (es.foldl Route.step q) := by
  induction es generalizing r q with
  | nil => exact h
  | cons e es ih => exact ih (h.step e)

theorem Alike.substitute_eq (h : Alike d r q) : r.substitute d = q.substitute d :=
  Route.ext h.rooted_eq h.ups_eq (substituteAll_eq_of_standIns_eq h.names_eq)

/-- Last names are interchangeable already if the same text stands for them in the last place. -/
theorem substitute_descend_eq (r : Route) (hn : IsName n) (hm : IsName m)
    (same : d.substitute true n = d.substitute true m) :
    (r.descend n hn).substitute d = (r.descend m hm).substitute d := by
  refine Route.ext rfl rfl ?_
  show substituteAll d (r.names ++ [n]) = substituteAll d (r.names ++ [m])
  rw [substituteAll_concat, substituteAll_concat, same]

theorem substitute_foldl_step_eq (r : Route) (es : List (List Char)) (hn : IsName n)
    (hm : IsName m) (same : d.standIns n = d.standIns m) :
    (((n :: es).foldl Route.step r).substitute d) = ((m :: es).foldl Route.step r).substitute d := by
  rw [List.foldl_cons, List.foldl_cons, step_of_isName hn, step_of_isName hm]
  exact (((Alike.refl d r).descend hn hm same).foldl_step es).substitute_eq

/-! ## The route of a path around one segment -/

/-- The route to the directory that a slash ends: the root if nothing comes before it. -/
def directory (before : List Char) : Route := if before = [] then start true else ofPath before

theorem ofPath_append_slash (before after : List Char) :
    ofPath (before ++ '/' :: after) = (pieces '/' after).foldl Route.step (directory before) := by
  unfold directory
  split_ifs with nothing
  · subst nothing
    simp [ofPath, pieces]
  · have same : (before ++ '/' :: after).head? = before.head? := List.head?_append_of_ne_nil _ nothing
    rw [ofPath, same, Split.pieces_append_cons, List.foldl_append]
    rfl

theorem ofPath_append (name : IsName n) (after : List Char) :
    ofPath (n ++ after) = (pieces '/' (n ++ after)).foldl Route.step (start false) := by
  have first : (n ++ after).head? ≠ some '/' := by
    rw [List.head?_append_of_ne_nil _ name.ne_nil]
    exact fun slash => name.no_slash (List.mem_of_head? slash)
  rw [ofPath, decide_eq_false first]

end Route

theorem pieces_segment_append (slash : '/' ∉ s) (after : List Char) :
    pieces '/' (s ++ '/' :: after) = s :: pieces '/' after := by
  rw [Split.pieces_append_cons, Split.pieces_eq_singleton slash, List.singleton_append]

/-- Without rules a path is sanitized by its own route. -/
theorem sanitize_eq_spell_ofPath (d : Detection) {path : List Char} (h : path ≠ []) :
    Sanitizer.sanitize ⟨d, []⟩ path = ((Route.ofPath path).substitute d).spell :=
  sanitize_eq_spell ⟨d, []⟩ h

/-! ## The main statement -/

/-- Identifiers of the same kind are interchangeable: between what comes before and what comes after,
at the start, at the end, and alone.  At the end and alone the kinds of last segments count. -/
theorem sanitize_eq_of_classify_eq (d : Detection) (k : Kind) {s t : List Char} (hs : '/' ∉ s)
    (ht : '/' ∉ t) (before after : List Char) :
    (d.classify false s = some k → d.classify false t = some k →
      Sanitizer.sanitize ⟨d, []⟩ (before ++ '/' :: s ++ '/' :: after) =
          Sanitizer.sanitize ⟨d, []⟩ (before ++ '/' :: t ++ '/' :: after) ∧
        Sanitizer.sanitize ⟨d, []⟩ (s ++ '/' :: after) =
          Sanitizer.sanitize ⟨d, []⟩ (t ++ '/' :: after)) ∧
      (d.classify true s = some k → d.classify true t = some k →
        Sanitizer.sanitize ⟨d, []⟩ (before ++ '/' :: s) =
            Sanitizer.sanitize ⟨d, []⟩ (before ++ '/' :: t) ∧
          Sanitizer.sanitize ⟨d, []⟩ s = Sanitizer.sanitize ⟨d, []⟩ t) := by
  constructor
  · intro sk tk
    have sname := Detection.isName_of_classify sk hs
    have tname := Detection.isName_of_classify tk ht
    have same := Detection.standIns_eq_of_classify sk tk
    have routes (r : Route) := r.substitute_foldl_step_eq (pieces '/' after) sname tname same
    constructor
    · rw [List.append_assoc, List.append_assoc, List.cons_append, List.cons_append,
        sanitize_eq_spell_ofPath d (by simp), sanitize_eq_spell_ofPath d (by simp),
        Route.ofPath_append_slash, Route.ofPath_append_slash, pieces_segment_append hs,
        pieces_segment_append ht, routes]
    · rw [sanitize_eq_spell_ofPath d (by simp), sanitize_eq_spell_ofPath d (by simp),
        Route.ofPath_append sname, Route.ofPath_append tname, pieces_segment_append hs,
        pieces_segment_append ht, routes]
  · intro sk tk
    have sname := Detection.isName_of_classify sk hs
    have tname := Detection.isName_of_classify tk ht
    have same : d.substitute true s = d.substitute true t := by
      rw [Detection.substitute_of_classify sk, Detection.substitute_of_classify tk]
    have routes (r : Route) : ([s].foldl Route.step r).substitute d =
        ([t].foldl Route.step r).substitute d := by
      rw [List.foldl_cons, List.foldl_cons, Route.step_of_isName sname, Route.step_of_isName tname]
      exact r.substitute_descend_eq sname tname same
    constructor
    · rw [sanitize_eq_spell_ofPath d (by simp), sanitize_eq_spell_ofPath d (by simp),
        Route.ofPath_append_slash, Route.ofPath_append_slash, Split.pieces_eq_singleton hs,
        Split.pieces_eq_singleton ht, routes]
    · have sroute := Route.ofPath_append sname []
      have troute := Route.ofPath_append tname []
      rw [List.append_nil, Split.pieces_eq_singleton hs] at sroute
      rw [List.append_nil, Split.pieces_eq_singleton ht] at troute
      rw [sanitize_eq_spell_ofPath d sname.ne_nil, sanitize_eq_spell_ofPath d tname.ne_nil, sroute,
        troute, routes]

/-- The numbers `42` and `cafe` in front of an element that leaves the directory after them, so that
they come to stand last, and two images that stand last from the start. -/
theorem sanitize_eq_of_classify_eq_numbers_images :
    let s : Sanitizer := ⟨.all, []⟩
    s.sanitize ['x', '/', '.', '.', '/', '4', '2', '/', 'y', '/', '.', '.'] =
        s.sanitize ['x', '/', '.', '.', '/', 'c', 'a', 'f', 'e', '/', 'y', '/', '.', '.'] ∧
      s.sanitize ['/', 'a', '.', 'p', 'n', 'g'] = s.sanitize ['/', 'b', '.', 'I', 'C', 'O'] := by
  have numbers := sanitize_eq_of_classify_eq .all .number (s := ['4', '2'])
    (t := ['c', 'a', 'f', 'e']) (by decide) (by decide) ['x', '/', '.', '.'] ['y', '/', '.', '.']
  have images := sanitize_eq_of_classify_eq .all .image (s := ['a', '.', 'p', 'n', 'g'])
    (t := ['b', '.', 'I', 'C', 'O']) (by decide) (by decide) [] []
  exact ⟨(numbers.1 (by decide) (by decide)).1, (images.2 (by decide) (by decide)).1⟩

end RequestKeys.Path
