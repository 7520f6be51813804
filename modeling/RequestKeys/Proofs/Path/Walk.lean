import Mathlib.Data.List.Basic
import RequestKeys.Proofs.Path.Route

/-!
# Walks

The walk of a path says where its elements lead from every directory.  A path and its cleaned form
have the same walk, two paths have the same walk only if they are cleaned to the same text, and no
other path with that walk is shorter but the empty one (`clean_eq_clean_iff_walk_eq`).  The walk of a
path is that of its route (`walk_eq_target`), and the routes are told apart by the directory that they
lead to from deep within names that occur in neither (`target_injective`).
-/

namespace RequestKeys.Path

open Split (pieces join)

/-- The directory that one element leads to from a directory, which is given by its names, the
innermost first.  The root is the directory above itself. -/
def walkStep (place : List (List Char)) (e : List Char) : List (List Char) :=
  if e = [] ∨ e = dot then place
  else if e = dotDot then place.tail
  else e :: place

/-- The directory that a path leads to from a directory. -/
def walk (path : List Char) (place : List (List Char)) : List (List Char) :=
  (pieces '/' path).foldl walkStep (if path.head? = some '/' then [] else place)

theorem walkStep_dotDot (place : List (List Char)) : walkStep place dotDot = place.tail := by
  rw [walkStep, if_neg (by decide), if_pos rfl]

theorem walkStep_of_isName {e : List Char} (name : IsName e) (place : List (List Char)) :
    walkStep place e = e :: place := by
  rw [walkStep, if_neg (not_or.2 ⟨name.ne_nil, name.ne_dot⟩), if_neg name.ne_dotDot]

/-! ## The directory that a route leads to -/

namespace Route

variable {r q : Route} {e : List Char}

/-- The directory that a route leads to from a directory. -/
def target (r : Route) (place : List (List Char)) : List (List Char) :=
  r.names.reverse ++ if r.rooted then [] else place.drop r.ups

theorem target_start (rooted : Bool) (place : List (List Char)) :
    (start rooted).target place = if rooted then [] else place := rfl

theorem target_climb (r : Route) (place : List (List Char)) :
    r.climb.target place = (r.target place).tail := by
  unfold climb target
  by_cases nameless : r.names = []
  · by_cases rooted : r.rooted = true
    · simp [nameless, rooted]
    · simp [nameless, rooted, List.tail_drop]
  · rw [if_neg nameless, List.tail_append_of_ne_nil (by simpa using nameless), List.tail_reverse]

theorem target_step (slash : '/' ∉ e) (place : List (List Char)) :
    (r.step e).target place = walkStep (r.target place) e := by
  by_cases empty : e = []
  · simp [empty, walkStep]
  by_cases one : e = dot
  · simp [one, walkStep]
  by_cases two : e = dotDot
  · rw [two, step_dotDot, walkStep_dotDot, target_climb]
  · have name : IsName e := ⟨empty, one, two, slash⟩
    rw [step_of_isName name, walkStep_of_isName name, descend, target, target,
      List.reverse_concat, List.cons_append]

theorem target_foldl_step {es : List (List Char)} (h : ∀ e ∈ es, '/' ∉ e)
    (place : List (List Char)) :
    (es.foldl step r).target place = es.foldl walkStep (r.target place) := by
  induction es generalizing r with
  | nil => rfl
  | cons e es ih =>
    rw [List.foldl_cons, List.foldl_cons, ih fun x hx => h x (List.mem_cons_of_mem _ hx),
      target_step (h e List.mem_cons_self)]

end Route

theorem walk_eq_target (path : List Char) (place : List (List Char)) :
    walk path place = (Route.ofPath path).target place := by
  rw [Route.ofPath, Route.target_foldl_step (fun _ h => Split.not_mem_of_mem_pieces h),
    Route.target_start, walk]
  simp only [decide_eq_true_eq]

theorem walk_clean (path : List Char) : walk (clean path) = walk path := by
  funext place
  rw [walk_eq_target, clean_eq_spell, Route.ofPath_spell, walk_eq_target]

/-! ## Telling routes apart -/

theorem exists_isName_not_mem (ns : List (List Char)) : ∃ n, IsName n ∧ n ∉ ns := by
  -- A name that is longer than all others together.
  refine ⟨List.replicate (ns.flatten.length + 1) 'a', ⟨?_, ?_, ?_, ?_⟩, fun found => ?_⟩
  · simp
  · intro same
    have first := congrArg List.head? same
    simp [List.replicate_succ, dot] at first
  · intro same
    have first := congrArg List.head? same
    simp [List.replicate_succ, dotDot] at first
  · intro slash
    cases List.eq_of_mem_replicate slash
  · have shorter := (List.sublist_flatten_of_mem found).length_le
    rw [List.length_replicate] at shorter
    omega

namespace Route

variable {r q : Route} {e : List Char}

theorem target_replicate (r : Route) (n : List Char) (depth : Nat) :
    r.target (List.replicate depth n) =
      r.names.reverse ++ List.replicate (if r.rooted then 0 else depth - r.ups) n := by
  unfold target
  split_ifs
  · rfl
  · rw [List.drop_replicate]

/-- Routes that lead to the same directory from every directory are the same. -/
theorem target_injective (h : ∀ place, (∀ n ∈ place, IsName n) → r.target place = q.target place) :
    r = q := by
  obtain ⟨n, name, other⟩ := exists_isName_not_mem (r.names ++ q.names)
  rw [List.mem_append, not_or] at other
  -- So deep that neither route climbs to the root.
  have deep := h (List.replicate (r.ups + q.ups + 1) n) fun m hm => List.eq_of_mem_replicate hm ▸ name
  rw [target_replicate, target_replicate] at deep
  have left := congrArg (List.count n) deep
  simp only [List.count_append, List.count_reverse, List.count_eq_zero_of_not_mem other.1,
    List.count_eq_zero_of_not_mem other.2, List.count_replicate_self, Nat.zero_add] at left
  rw [left] at deep
  have names : r.names = q.names := List.reverse_inj.1 (List.append_cancel_right deep)
  cases hr : r.rooted <;> cases hq : q.rooted <;> simp only [hr, hq] at left
  case false.false => exact Route.ext (hr.trans hq.symm) (by simp at left; omega) names
  case true.true =>
    exact Route.ext (hr.trans hq.symm) ((r.ups_eq_zero hr).trans (q.ups_eq_zero hq).symm) names
  all_goals simp at left; omega

/-! ## The length of a spelled route -/

/-- An element is kept at the end, or nothing new comes into being. -/
theorem elements_step_sublist (r : Route) (e : List Char) :
    (r.step e).elements.Sublist (r.elements ++ [e]) := by
  unfold step
  split_ifs with name back
  · simp [descend, elements]
  · unfold climb
    split_ifs with nameless rooted
    · exact List.sublist_append_left _ _
    · simp [elements, nameless, back, List.replicate_succ']
    · have fewer : (List.replicate r.ups dotDot ++ r.names.dropLast).Sublist r.elements :=
        (List.dropLast_sublist r.names).append_left _
      exact fewer.trans (List.sublist_append_left _ _)
  · exact List.sublist_append_left _ _

theorem elements_foldl_step_sublist (r : Route) (es : List (List Char)) :
    (es.foldl step r).elements.Sublist (r.elements ++ es) := by
  induction es generalizing r with
  | nil => simp
  | cons e es ih =>
    have rest := (ih (r.step e)).trans ((r.elements_step_sublist e).append_right es)
    simpa using rest

/-- No path but the empty one is shorter than the spelling of its route. -/
theorem length_spell_ofPath_le {path : List Char} (h : path ≠ []) :
    (ofPath path).spell.length ≤ path.length := by
  have some_char : 1 ≤ path.length := List.length_pos_iff.2 h
  have rooted := rooted_ofPath path
  rw [spell, segments]
  by_cases slash : path.head? = some '/'
  · obtain ⟨rest, rfl⟩ : ∃ rest, path = '/' :: rest := List.head?_eq_some_iff.1 slash
    -- The slash at the start has nothing before it, so the elements are among those after it.
    have kept : (ofPath ('/' :: rest)).elements.Sublist (pieces '/' rest) := by
      have fewer := elements_foldl_step_sublist (start true) (pieces '/' rest)
      simpa [ofPath, pieces, start, elements] using fewer
    have shorter := Split.length_join_le '/' kept
    rw [Split.join_pieces] at shorter
    rw [decide_eq_true slash] at rooted
    simp only [rooted, if_true]
    split_ifs with nowhere
    · exact some_char
    · rw [Split.join_cons [] nowhere]
      simpa using shorter
  · have kept : (ofPath path).elements.Sublist (pieces '/' path) := by
      have fewer := elements_foldl_step_sublist (start false) (pieces '/' path)
      simpa [ofPath, slash, start, elements] using fewer
    have shorter := Split.length_join_le '/' kept
    rw [Split.join_pieces] at shorter
    rw [decide_eq_false slash] at rooted
    simp only [rooted, Bool.false_eq_true, if_false]
    split_ifs with nowhere
    · exact some_char
    · exact shorter

end Route

/-! ## The main statement -/

/-- Cleaning keeps the walk of a path; paths are cleaned to the same text exactly if they lead to the
same directory from every directory, for which directories with proper names suffice; and no path
with the same walk is shorter than the cleaned one, but for the empty one, which is spelled `.`. -/
theorem clean_eq_clean_iff_walk_eq (p q : List Char) :
    (∀ place, walk (clean p) place = walk p place) ∧
      (clean p = clean q ↔ ∀ place, walk p place = walk q place) ∧
      ((∀ place, (∀ n ∈ place, IsName n) → walk p place = walk q place) → clean p = clean q) ∧
      (q ≠ [] → (∀ place, walk p place = walk q place) → (clean p).length ≤ q.length) := by
  have told_apart (h : ∀ place, (∀ n ∈ place, IsName n) → walk p place = walk q place) :
      clean p = clean q := by
    simp only [walk_eq_target] at h
    rw [clean_eq_spell, clean_eq_spell, Route.target_injective h]
  refine ⟨fun place => congrFun (walk_clean p) place, ⟨fun same place => ?_, fun h => ?_⟩,
    told_apart, fun nonempty h => ?_⟩
  · rw [← walk_clean p, same, walk_clean]
  · exact told_apart fun place _ => h place
  · rw [told_apart fun place _ => h place, clean_eq_spell]
    exact Route.length_spell_ofPath_le nonempty

/-- `a/../../x` is spelled `../x`: it leads to the same directories as `..//x` and is no longer. -/
theorem clean_eq_clean_iff_walk_eq_climb :
    let p := ['a', '/', '.', '.', '/', '.', '.', '/', 'x']
    let q := ['.', '.', '/', '/', 'x']
    clean p = ['.', '.', '/', 'x'] ∧ (∀ place, walk p place = walk q place) ∧
      (clean p).length ≤ q.length := by
  intro p q
  obtain ⟨-, same_iff, -, shortest⟩ := clean_eq_clean_iff_walk_eq p q
  have same := same_iff.1 (by decide)
  exact ⟨by decide, same, shortest (by decide) same⟩

end RequestKeys.Path
