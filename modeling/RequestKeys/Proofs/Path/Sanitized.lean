import RequestKeys.Path.Sanitizer
import RequestKeys.Proofs.Path.Route

/-!
# Sanitized paths

A sanitized path is a cleaned path in which no segment is an identifier any more, but for the `0`
that stands for numbers and is one itself (`IsSanitized`).  These are the values of the sanitizer
without rules and its fixed points, and its values under any rules are among them.  The reason is
that every placeholder is a name and is recognised as nothing else, and that what cannot be a name,
an empty element or a dot element, is recognised as nothing.
-/

namespace RequestKeys.Path

open Split (pieces join)

/-! ## Placeholders -/

namespace Detection

variable {d : Detection} {last : Bool} {e : List Char}

theorem substitute_of_classify {kind : Kind} (h : d.classify last e = some kind) :
    d.substitute last e = kind.placeholder := by
  rw [substitute, h]

theorem substitute_of_classify_none (h : d.classify last e = .none) : d.substitute last e = e := by
  rw [substitute, h]

/-- A segment that the substitution leaves alone: no identifier, or the `0` that stands for numbers. -/
def Settled (d : Detection) (last : Bool) (segment : List Char) : Prop :=
  d.classify last segment = .none ∨
    d.classify last segment = some .number ∧ segment = ['0']

/-- A placeholder passes no test but that of numbers for its own. -/
theorem classify_placeholder (d : Detection) (last : Bool) (k : Kind) :
    d.classify last k.placeholder = if d.numbers ∧ k = .number then some .number else .none := by
  have hash : isHash k.placeholder = false := by cases k <;> decide
  have number :
      (isNumeric k.placeholder || isHexadecimal k.placeholder) = decide (k = .number) := by
    cases k <;> decide
  have uuid : isUuid k.placeholder = false := by cases k <;> decide
  have address : isAddress k.placeholder = false := by cases k <;> decide
  have image : isImage k.placeholder = false := by cases k <;> decide
  have font : isFont k.placeholder = false := by cases k <;> decide
  have nonempty : k.placeholder.isEmpty = false := by cases k <;> decide
  simp [classify, hash, number, uuid, address, image, font, nonempty]

theorem settled_placeholder (d : Detection) (last : Bool) (k : Kind) :
    d.Settled last k.placeholder := by
  rw [Settled, classify_placeholder]
  split_ifs with number
  · exact .inr ⟨rfl, congrArg Kind.placeholder number.2⟩
  · exact .inl rfl

theorem settled_substitute (d : Detection) (last : Bool) (segment : List Char) :
    d.Settled last (d.substitute last segment) := by
  unfold substitute
  cases found : d.classify last segment with
  | some kind => exact d.settled_placeholder last kind
  | none => exact .inl found

theorem Settled.substitute_eq (h : d.Settled last e) : d.substitute last e = e := by
  rcases h with plain | ⟨number, rfl⟩
  · rw [substitute, plain]
  · -- The placeholder of numbers is found once more and gives way to itself.
    rw [substitute, number]
    rfl

/-! ## Elements -/

theorem isName_placeholder (k : Kind) : IsName k.placeholder := by
  cases k <;> decide

theorem isName_substitute (h : IsName e) : IsName (d.substitute last e) := by
  unfold substitute
  cases d.classify last e with
  | some kind => exact isName_placeholder kind
  | none => exact h

/-- What cannot be a name is no identifier. -/
theorem substitute_of_points (d : Detection) (last : Bool) (h : e = [] ∨ e = dot ∨ e = dotDot) :
    d.substitute last e = e := by
  have hash : isHash e = false := by rcases h with rfl | rfl | rfl <;> decide
  have numeric : isNumeric e = false := by rcases h with rfl | rfl | rfl <;> decide
  have hexadecimal : isHexadecimal e = false := by rcases h with rfl | rfl | rfl <;> decide
  have uuid : isUuid e = false := by rcases h with rfl | rfl | rfl <;> decide
  have address : isAddress e = false := by rcases h with rfl | rfl | rfl <;> decide
  have image : isImage e = false := by rcases h with rfl | rfl | rfl <;> decide
  have font : isFont e = false := by rcases h with rfl | rfl | rfl <;> decide
  refine Settled.substitute_eq (.inl ?_)
  simp [classify, hash, numeric, hexadecimal, uuid, address, image, font]

end Detection

/-! ## The substitution in all segments -/

section SubstituteAll

variable {d : Detection} {e : List Char} {es : List (List Char)}

theorem substituteAll_cons (d : Detection) (e : List Char) (es : List (List Char)) :
    substituteAll d (e :: es) = d.substitute es.isEmpty e :: substituteAll d es := by
  cases es <;> rfl

theorem substituteAll_eq_nil_iff : substituteAll d es = [] ↔ es = [] := by
  cases es <;> simp [substituteAll_cons, substituteAll]

theorem isEmpty_substituteAll (d : Detection) (es : List (List Char)) :
    (substituteAll d es).isEmpty = es.isEmpty := by
  rw [Bool.eq_iff_iff, List.isEmpty_iff, List.isEmpty_iff, substituteAll_eq_nil_iff]

theorem isName_of_mem_substituteAll (h : ∀ n ∈ es, IsName n) :
    ∀ n ∈ substituteAll d es, IsName n := by
  intro n hn
  induction es with
  | nil => exact h n hn
  | cons e es ih =>
    rw [substituteAll_cons] at hn
    rcases List.mem_cons.1 hn with rfl | hn
    · exact Detection.isName_substitute (h e List.mem_cons_self)
    · exact ih (fun x hx => h x (List.mem_cons_of_mem _ hx)) hn

/-- After the substitution every segment is settled at its place. -/
theorem settled_of_substituteAll_eq {before after : List (List Char)}
    (h : substituteAll d es = before ++ e :: after) : d.Settled after.isEmpty e := by
  induction es generalizing before with
  | nil => simp [substituteAll] at h
  | cons x xs ih =>
    rw [substituteAll_cons] at h
    cases before with
    | nil =>
      obtain ⟨rfl, rfl⟩ := List.cons.inj h
      rw [isEmpty_substituteAll]
      exact d.settled_substitute xs.isEmpty x
    | cons y before => exact ih (List.cons.inj h).2

theorem substituteAll_eq_self
    (h : ∀ before e after, es = before ++ e :: after → d.Settled after.isEmpty e) :
    substituteAll d es = es := by
  induction es with
  | nil => rfl
  | cons x xs ih =>
    have rest := ih fun before e after split => h (x :: before) e after (split ▸ rfl)
    rw [substituteAll_cons, rest, (h [] x xs rfl).substitute_eq]

/-- What cannot be a name stays as it is in front of other segments. -/
theorem substituteAll_replicate_append (k : Nat) (es : List (List Char)) :
    substituteAll d (List.replicate k dotDot ++ es) =
      List.replicate k dotDot ++ substituteAll d es := by
  induction k with
  | zero => rfl
  | succ k ih =>
    rw [List.replicate_succ, List.cons_append, List.cons_append, substituteAll_cons, ih,
      Detection.substitute_of_points d _ (.inr (.inr rfl))]

end SubstituteAll

/-! ## The route of a sanitized path -/

namespace Route

variable {d : Detection}

/-- The route through the substituted names. -/
def substitute (d : Detection) (r : Route) : Route :=
  { r with
    names := substituteAll d r.names
    isName := isName_of_mem_substituteAll r.isName }

theorem elements_substitute (d : Detection) (r : Route) :
    (r.substitute d).elements = substituteAll d r.elements :=
  (substituteAll_replicate_append r.ups r.names).symm

/-- The substitution in the segments of a route happens in its names only. -/
theorem segments_substitute (d : Detection) (r : Route) :
    (r.substitute d).segments = substituteAll d r.segments := by
  have rooted : (r.substitute d).rooted = r.rooted := rfl
  have points := fun last e h => Detection.substitute_of_points (e := e) d last h
  rw [segments, segments, elements_substitute, rooted]
  simp only [substituteAll_eq_nil_iff]
  split_ifs with nowhere hr hr
  · simp [substituteAll, points]
  · simp [substituteAll, points]
  · rw [substituteAll_cons, points _ _ (.inl rfl)]
  · rfl

end Route

/-- The substitution between the slashes of a spelled route spells the route with its names
substituted. -/
theorem join_substituteAll_spell (d : Detection) (r : Route) :
    join '/' (substituteAll d (pieces '/' r.spell)) = (r.substitute d).spell := by
  rw [Route.pieces_spell, ← Route.segments_substitute, Route.spell]

/-- A path is sanitized by the route of what the rules make of it. -/
theorem sanitize_eq_spell (s : Sanitizer) {path : List Char} (h : path ≠ []) :
    s.sanitize path =
      ((Route.ofPath (reroute s.rules path)).substitute s.detection).spell := by
  have nonempty : ¬ path.isEmpty := fun empty => h (List.isEmpty_iff.1 empty)
  rw [Sanitizer.sanitize, if_neg nonempty, clean_eq_spell, join_substituteAll_spell]

/-- A sanitized path is a spelled route with its names substituted. -/
theorem exists_sanitize_eq_spell (s : Sanitizer) (path : List Char) :
    ∃ r : Route, s.sanitize path = (r.substitute s.detection).spell := by
  by_cases empty : path = []
  · subst empty
    exact ⟨Route.start true, rfl⟩
  · exact ⟨_, sanitize_eq_spell s empty⟩

/-! ## Sanitized paths -/

/-- A cleaned path without an identifier that the detection would still find. -/
structure IsSanitized (d : Detection) (path : List Char) : Prop where
  ne_nil : path ≠ []
  clean_eq : clean path = path
  settled : ∀ before segment after, pieces '/' path = before ++ segment :: after →
    d.Settled after.isEmpty segment

theorem isSanitized_sanitize (s : Sanitizer) (path : List Char) :
    IsSanitized s.detection (s.sanitize path) := by
  obtain ⟨r, spelled⟩ := exists_sanitize_eq_spell s path
  rw [spelled]
  refine ⟨Route.spell_ne_nil _, clean_spell _, fun before segment after split => ?_⟩
  rw [Route.pieces_spell, Route.segments_substitute] at split
  exact settled_of_substituteAll_eq split

/-- Without a rule that changes it, a sanitized path stays as it is. -/
theorem IsSanitized.sanitize_eq {s : Sanitizer} {path : List Char}
    (h : IsSanitized s.detection path) (unmoved : reroute s.rules path = path) :
    s.sanitize path = path := by
  have nonempty : ¬ path.isEmpty := fun empty => h.ne_nil (List.isEmpty_iff.1 empty)
  simp only [Sanitizer.sanitize, if_neg nonempty, unmoved, h.clean_eq]
  rw [substituteAll_eq_self h.settled, Split.join_pieces]

/-- Sanitizing twice is sanitizing once unless a rule takes the sanitized path elsewhere. -/
theorem sanitize_sanitize (s : Sanitizer) (path : List Char) :
    (reroute s.rules (s.sanitize path) = s.sanitize path →
        s.sanitize (s.sanitize path) = s.sanitize path) ∧
      (s.rules = [] → reroute s.rules (s.sanitize path) = s.sanitize path) :=
  ⟨(isSanitized_sanitize s path).sanitize_eq, fun ruleless => by rw [ruleless]; rfl⟩

theorem sanitize_sanitize_of_replacement :
    let s : Sanitizer := ⟨.all, [⟨['^', '/', 'u'], (['/', 'u'].isPrefixOf ·), ['v', '/', '7']⟩]⟩
    s.sanitize ['/', 'u', '/', '.', '.', '/', 'é'] = ['v', '/', '0'] ∧
      s.sanitize ['v', '/', '0'] = ['v', '/', '0'] := by
  intro s
  have once : s.sanitize ['/', 'u', '/', '.', '.', '/', 'é'] = ['v', '/', '0'] := by decide
  have twice := (sanitize_sanitize s ['/', 'u', '/', '.', '.', '/', 'é']).1
  rw [once] at twice
  exact ⟨once, twice (by decide)⟩

/-- All values of a sanitizer are sanitized paths, and the values of one without rules, which are
its fixed points, are all of these. -/
theorem sanitize_range (d : Detection) :
    (∀ rules path, IsSanitized d (Sanitizer.sanitize ⟨d, rules⟩ path)) ∧
      (∀ path, IsSanitized d path → Sanitizer.sanitize ⟨d, []⟩ path = path) ∧
      ∀ path, (∃ source, Sanitizer.sanitize ⟨d, []⟩ source = path) ↔ IsSanitized d path := by
  have sanitized := fun rules path => isSanitized_sanitize ⟨d, rules⟩ path
  have fixed (path : List Char) (h : IsSanitized d path) : Sanitizer.sanitize ⟨d, []⟩ path = path :=
    IsSanitized.sanitize_eq (s := ⟨d, []⟩) h rfl
  refine ⟨sanitized, fixed, fun path => ⟨?_, fun h => ⟨path, fixed path h⟩⟩⟩
  rintro ⟨source, rfl⟩
  exact sanitized [] source

end RequestKeys.Path
