import RequestKeys.Path.Clean
import RequestKeys.Proofs.Text.Split

/-!
# Routes

A route is what a path says apart from its spelling: whether it starts at the root, how far it
climbs first, and the names it descends through.  Cleaning a path is spelling its route
(`clean_eq_spell`), and the route of a spelled route is that route (`ofPath_spell`), so spelled
routes are the cleaned paths and nothing else.
-/

namespace RequestKeys.Path

open Split (pieces join)

/-! ## Names -/

/-- An element that names something below the directory before it. -/
structure IsName (e : List Char) : Prop where
  ne_nil : e ≠ []
  ne_dot : e ≠ dot
  ne_dotDot : e ≠ dotDot
  no_slash : '/' ∉ e

theorem isName_iff {e : List Char} : IsName e ↔ e ≠ [] ∧ e ≠ dot ∧ e ≠ dotDot ∧ '/' ∉ e :=
  ⟨fun h => ⟨h.ne_nil, h.ne_dot, h.ne_dotDot, h.no_slash⟩,
    fun ⟨h₁, h₂, h₃, h₄⟩ => ⟨h₁, h₂, h₃, h₄⟩⟩

instance : DecidablePred IsName := fun _ => decidable_of_iff' _ isName_iff

/-! ## Routes -/

/-- A way through directories; one that starts at the root does not climb. -/
@[ext]
structure Route where
  rooted : Bool
  ups : Nat
  names : List (List Char)
  isName : ∀ n ∈ names, IsName n
  ups_eq_zero : rooted = true → ups = 0

namespace Route

/-- The route that stays where it starts. -/
def start (rooted : Bool) : Route := ⟨rooted, 0, [], nofun, fun _ => rfl⟩

/-- The route that goes on to a name. -/
def descend (r : Route) (e : List Char) (h : IsName e) : Route :=
  { r with
    names := r.names ++ [e]
    isName := by
      intro n hn
      rcases List.mem_append.1 hn with hn | hn
      · exact r.isName n hn
      · exact List.mem_singleton.1 hn ▸ h }

/-- The route that goes back to the directory before; the root is its own. -/
def climb (r : Route) : Route :=
  if r.names = [] then
    if h : r.rooted = true then r
    else { r with ups := r.ups + 1, ups_eq_zero := fun rooted => absurd rooted h }
  else
    { r with
      names := r.names.dropLast
      isName := fun n hn => r.isName n (List.dropLast_subset _ hn) }

/-- The route that goes on by one element of a path. -/
def step (r : Route) (e : List Char) : Route :=
  if h : IsName e then r.descend e h
  else if e = dotDot then r.climb
  else r

/-- The route of a path. -/
def ofPath (path : List Char) : Route :=
  (pieces '/' path).foldl step (start (path.head? = some '/'))

/-- The elements that say where a route goes. -/
def elements (r : Route) : List (List Char) := List.replicate r.ups dotDot ++ r.names

/-- The stretches between the slashes of a spelled route. -/
def segments (r : Route) : List (List Char) :=
  if r.elements = [] then
    if r.rooted then [[], []] else [dot]
  else if r.rooted then [] :: r.elements
  else r.elements

/-- The shortest spelling of a route. -/
def spell (r : Route) : List Char := join '/' r.segments

variable {r : Route} {e : List Char}

theorem step_of_isName (h : IsName e) : r.step e = r.descend e h := dif_pos h

theorem step_dotDot (r : Route) : r.step dotDot = r.climb := by
  rw [step, dif_neg (fun h => h.ne_dotDot rfl), if_pos rfl]

@[simp]
theorem step_nil (r : Route) : r.step [] = r := by
  rw [step, dif_neg (fun h => h.ne_nil rfl), if_neg (by decide)]

@[simp]
theorem step_dot (r : Route) : r.step dot = r := by
  rw [step, dif_neg (fun h => h.ne_dot rfl), if_neg (by decide)]

@[simp]
theorem rooted_step (r : Route) (e : List Char) : (r.step e).rooted = r.rooted := by
  unfold step climb descend
  split_ifs <;> rfl

@[simp]
theorem rooted_foldl_step (r : Route) (es : List (List Char)) :
    (es.foldl step r).rooted = r.rooted := by
  induction es generalizing r with
  | nil => rfl
  | cons e es ih => rw [List.foldl_cons, ih, rooted_step]

@[simp]
theorem rooted_ofPath (path : List Char) :
    (ofPath path).rooted = decide (path.head? = some '/') := by
  rw [ofPath, rooted_foldl_step, start]

/-! ## Spelling a route -/

theorem mem_elements (h : e ∈ r.elements) : e = dotDot ∨ IsName e := by
  rcases List.mem_append.1 h with h | h
  · exact .inl (List.eq_of_mem_replicate h)
  · exact .inr (r.isName e h)

theorem ne_nil_of_mem_elements (h : e ∈ r.elements) : e ≠ [] := by
  rcases mem_elements h with rfl | name
  · decide
  · exact name.ne_nil

theorem no_slash_of_mem_elements (h : e ∈ r.elements) : '/' ∉ e := by
  rcases mem_elements h with rfl | name
  · decide
  · exact name.no_slash

theorem mem_segments (h : e ∈ r.segments) : e = [] ∨ e = dot ∨ e ∈ r.elements := by
  unfold segments at h
  split_ifs at h
  · simp_all
  · simp_all
  · rcases List.mem_cons.1 h with h | h
    · exact .inl h
    · exact .inr (.inr h)
  · exact .inr (.inr h)

theorem segments_ne_nil (r : Route) : r.segments ≠ [] := by
  unfold segments
  split_ifs <;> simp_all

theorem no_slash_of_mem_segments (h : e ∈ r.segments) : '/' ∉ e := by
  rcases mem_segments h with rfl | rfl | h
  · decide
  · decide
  · exact no_slash_of_mem_elements h

theorem pieces_spell (r : Route) : pieces '/' r.spell = r.segments :=
  Split.pieces_join (fun _ h => no_slash_of_mem_segments h) r.segments_ne_nil

theorem spell_ne_nil (r : Route) : r.spell ≠ [] := by
  intro h
  have segments := r.pieces_spell
  rw [h] at segments
  unfold Route.segments at segments
  split_ifs at segments with nowhere
  · simp [pieces] at segments
  · simp [pieces, dot] at segments
  · simp [pieces] at segments
    exact nowhere segments
  · exact ne_nil_of_mem_elements (r := r) (segments ▸ List.mem_cons_self) rfl

/-! ## Cleaning is spelling the route -/

/-- The elements of a route, the last of them first. -/
def stack (r : Route) : List (List Char) := r.names.reverse ++ List.replicate r.ups dotDot

theorem reverse_stack (r : Route) : r.stack.reverse = r.elements := by
  simp [stack, elements]

theorem cleanStep_dotDot (rooted : Bool) (kept : List (List Char)) :
    cleanStep rooted kept dotDot =
      match kept with
      | last :: before => if last ≠ dotDot then before else if rooted then kept else dotDot :: kept
      | [] => if rooted then [] else [dotDot] := by
  cases kept <;> simp [cleanStep, dotDot, dot]

/-- Going back leaves the last name, climbs, or does nothing at the root. -/
theorem cleanStep_stack_dotDot (r : Route) :
    cleanStep r.rooted r.stack dotDot = r.climb.stack := by
  rw [cleanStep_dotDot]
  rcases r with ⟨rooted, ups, names, isName, ups_eq_zero⟩
  rcases List.eq_nil_or_concat names with rfl | ⟨before, last, hn⟩
  · cases rooted with
    | true => simp [climb, stack, ups_eq_zero]
    | false => cases ups <;> simp [climb, stack, List.replicate_succ]
  · rw [List.concat_eq_append] at hn
    subst hn
    have name : IsName last := isName last (by simp)
    simp [climb, stack, name.ne_dotDot]

theorem cleanStep_stack (r : Route) (h : '/' ∉ e) :
    cleanStep r.rooted r.stack e = (r.step e).stack := by
  by_cases hnil : e = []
  · simp [hnil, cleanStep]
  by_cases hdot : e = dot
  · simp [hdot, cleanStep]
  by_cases hdd : e = dotDot
  · rw [hdd, step_dotDot, cleanStep_stack_dotDot]
  · rw [step_of_isName ⟨hnil, hdot, hdd, h⟩]
    simp [cleanStep, hnil, hdot, hdd, stack, descend]

theorem foldl_cleanStep_stack (r : Route) {es : List (List Char)} (h : ∀ e ∈ es, '/' ∉ e) :
    es.foldl (cleanStep r.rooted) r.stack = (es.foldl step r).stack := by
  induction es generalizing r with
  | nil => rfl
  | cons e es ih =>
    rw [List.foldl_cons, List.foldl_cons, cleanStep_stack r (h e List.mem_cons_self),
      ← rooted_step r e]
    exact ih (r.step e) fun x hx => h x (List.mem_cons_of_mem _ hx)

theorem cleanElements_pieces (path : List Char) :
    cleanElements (path.head? = some '/') (pieces '/' path) = (ofPath path).elements := by
  rw [← reverse_stack, ofPath,
    ← foldl_cleanStep_stack (start _) fun _ h => Split.not_mem_of_mem_pieces h]
  rfl

end Route

/-- Cleaning a path forgets all but its route. -/
theorem clean_eq_spell (path : List Char) : clean path = (Route.ofPath path).spell := by
  have rooted := Route.rooted_ofPath path
  have nonempty := @Route.ne_nil_of_mem_elements (Route.ofPath path)
  rw [clean, Route.cleanElements_pieces]
  generalize Route.ofPath path = r at rooted nonempty ⊢
  rw [Route.spell, Route.segments]
  by_cases h : path.head? = some '/' <;> simp only [h, decide_true, decide_false] at rooted
  · cases he : r.elements <;> simp [rooted, h, join]
  · cases he : r.elements with
    | nil => simp [rooted, h, join]
    | cons e es =>
      have hne := nonempty (he ▸ List.mem_cons_self : e ∈ r.elements)
      cases es <;> simp [rooted, h, join, hne]

/-! ## The route of a spelled route -/

namespace Route

variable {r : Route}

theorem head?_spell (r : Route) : r.spell.head? = some '/' ↔ r.rooted = true := by
  cases rooted : r.rooted with
  | true =>
    rw [spell, segments]
    cases he : r.elements <;> simp [rooted, join]
  | false =>
    have slashless := @no_slash_of_mem_segments r
    obtain ⟨e, es, he⟩ := List.exists_cons_of_ne_nil r.segments_ne_nil
    have hne : e ≠ [] := by
      have mem : e ∈ r.segments := he ▸ List.mem_cons_self
      simp only [segments, rooted, Bool.false_eq_true, if_false] at mem
      split_ifs at mem
      · rw [List.mem_singleton.1 mem]
        decide
      · exact ne_nil_of_mem_elements mem
    rw [spell, he, Split.head?_join_cons hne]
    simp only [Bool.false_eq_true, iff_false]
    exact fun head => slashless (he ▸ List.mem_cons_self) (List.mem_of_head? head)

theorem foldl_step_names (r : Route) {ns : List (List Char)} (h : ∀ n ∈ ns, IsName n) :
    (ns.foldl step r).ups = r.ups ∧ (ns.foldl step r).names = r.names ++ ns := by
  induction ns generalizing r with
  | nil => simp
  | cons n ns ih =>
    rw [List.foldl_cons, step_of_isName (h n List.mem_cons_self)]
    obtain ⟨ups, names⟩ := ih (r.descend n _) fun x hx => h x (List.mem_cons_of_mem _ hx)
    rw [ups, names]
    simp [descend]

theorem foldl_step_replicate (hr : r.rooted = false) (hn : r.names = []) (k : Nat) :
    ((List.replicate k dotDot).foldl step r).ups = r.ups + k ∧
      ((List.replicate k dotDot).foldl step r).names = [] := by
  induction k generalizing r with
  | zero => simp [hn]
  | succ k ih =>
    have climbed : r.climb.rooted = false ∧ r.climb.names = [] ∧ r.climb.ups = r.ups + 1 := by
      simp [climb, hr, hn]
    rw [List.replicate_succ, List.foldl_cons, step_dotDot]
    obtain ⟨ups, names⟩ := ih climbed.1 climbed.2.1
    rw [ups, names, climbed.2.2]
    exact ⟨by omega, rfl⟩

theorem foldl_step_elements (r : Route) : r.elements.foldl step (start r.rooted) = r := by
  rw [elements, List.foldl_append]
  -- The climbs come before any name, and at the root there are none.
  have climbed : ((List.replicate r.ups dotDot).foldl step (start r.rooted)).ups = r.ups ∧
      ((List.replicate r.ups dotDot).foldl step (start r.rooted)).names = [] := by
    cases rooted : r.rooted with
    | true => simp [r.ups_eq_zero rooted, start]
    | false => simpa [start] using foldl_step_replicate (r := start false) rfl rfl r.ups
  obtain ⟨ups, names⟩ := foldl_step_names _ r.isName
  refine Route.ext ?_ (ups.trans climbed.1) (names.trans ?_)
  · simp [start]
  · rw [climbed.2, List.nil_append]

theorem foldl_step_segments (r : Route) : r.segments.foldl step (start r.rooted) = r := by
  have elements := r.foldl_step_elements
  unfold segments
  split_ifs with nowhere
  all_goals simp_all

/-- A spelled route has itself as its route. -/
theorem ofPath_spell (r : Route) : ofPath r.spell = r := by
  have rooted : decide (r.spell.head? = some '/') = r.rooted := by
    rw [Bool.eq_iff_iff, decide_eq_true_iff]
    exact r.head?_spell
  rw [ofPath, rooted, pieces_spell, foldl_step_segments]

end Route

theorem clean_spell (r : Route) : clean r.spell = r.spell := by
  rw [clean_eq_spell, Route.ofPath_spell]

end RequestKeys.Path
