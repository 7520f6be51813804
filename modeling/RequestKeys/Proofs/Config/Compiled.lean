import Mathlib.Data.List.Forall2
import RequestKeys.Proofs.Config.Field
import RequestKeys.Proofs.Path.Exclusion

/-!
# Compiled settings

Rules are compiled in order up to the first whose pattern is not valid, which is the one that a
failure names (`compileRules_eq_error_iff`).  If all patterns are valid, each rule becomes one that
does what its settings say (`compileRules_eq_ok_iff`).  Compiled settings take nothing but these rules,
the kinds that are looked for and the parameter from the settings, and a key builder takes the same
from them (`compileSettings_eq_error_iff_isFirst`).  All this holds for any engine, whatever its
patterns are.
-/

namespace RequestKeys

open Config (Field)

variable {E : Pattern.Engine} {rules : List RuleSettings} {compiled : List Path.Rule}
  {r : RuleSettings} {q : Path.Rule} {bad : BadRule} {pattern : List Char} {i j : Nat}
  {s : Settings} {c : CompiledSettings} {b : KeyBuilder}

/-! ## The first rule that is not valid -/

/-- The failure names the first rule whose pattern is not valid. -/
structure BadRule.IsFirst (bad : BadRule) (E : Pattern.Engine) (rules : List RuleSettings) :
    Prop where
  named : ∃ r, rules[bad.index]? = some r ∧ r.pattern = bad.pattern
  invalid : ¬ E.isValid bad.pattern
  least : ∀ j < bad.index, ∀ r, rules[j]? = some r → E.isValid r.pattern

namespace BadRule

theorem not_isFirst_nil : ¬ bad.IsFirst E [] := fun h => by
  obtain ⟨r, found, -⟩ := h.named
  cases found

theorem isFirst_zero_cons :
    IsFirst ⟨0, pattern⟩ E (r :: rules) ↔ r.pattern = pattern ∧ ¬ E.isValid pattern := by
  constructor
  · rintro ⟨⟨_, found, named⟩, invalid, -⟩
    obtain rfl := Option.some.inj found
    exact ⟨named, invalid⟩
  · rintro ⟨named, invalid⟩
    exact ⟨⟨r, rfl, named⟩, invalid, fun j before => absurd before (Nat.not_lt_zero j)⟩

theorem isFirst_succ_cons :
    IsFirst ⟨j + 1, pattern⟩ E (r :: rules) ↔
      E.isValid r.pattern ∧ IsFirst ⟨j, pattern⟩ E rules := by
  constructor
  · rintro ⟨named, invalid, least⟩
    exact ⟨least 0 (Nat.succ_pos j) r rfl, named, invalid,
      fun k before => least (k + 1) (Nat.succ_lt_succ before)⟩
  · rintro ⟨valid, named, invalid, least⟩
    refine ⟨named, invalid, fun k before q found => ?_⟩
    cases k with
    | zero => exact Option.some.inj found ▸ valid
    | succ k => exact least k (Nat.lt_of_succ_lt_succ before) q found

end BadRule

namespace Pattern.Engine

/-! ## Single rules -/

/-- What a rule is compiled into: it keeps its texts, and accepts the paths in which the expression of
its pattern occurs. -/
def Compiles (E : Engine) (r : RuleSettings) (q : Path.Rule) : Prop :=
  ∃ x, E.compile? r.pattern = some x ∧
    q = { pattern := r.pattern, accepts := E.occursIn x, replacement := r.replacement }

theorem rule?_eq_some_iff : E.rule? r = some q ↔ E.Compiles r q := by
  refine Option.map_eq_some_iff.trans (exists_congr fun x => and_congr_right fun found => ?_)
  rw [E.text_of_compile? found, eq_comm]

theorem isValid_iff_isSome_rule? : E.isValid r.pattern ↔ (E.rule? r).isSome := by
  rw [rule?, Option.isSome_map, isValid]

/-- Whether the pattern of a rule matches somewhere in a path. -/
def matchesIn (E : Engine) (r : RuleSettings) (path : List Char) : Bool :=
  (E.compile? r.pattern).any (E.occursIn · path)

theorem Compiles.apply_eq (h : E.Compiles r q) (path : List Char) :
    q.apply path = if E.matchesIn r path then r.replacement else path := by
  obtain ⟨x, found, rfl⟩ := h
  rw [matchesIn, found]
  rfl

theorem Compiles.texts_eq (h : E.Compiles r q) :
    (q.pattern, q.replacement) = (r.pattern, r.replacement) := by
  obtain ⟨x, -, rfl⟩ := h
  rfl

/-! ## Lists of rules -/

theorem compileRules_of_invalid (invalid : E.rule? r = none) :
    E.compileRules i (r :: rules) = .error ⟨i, r.pattern⟩ := by
  rw [compileRules, invalid]

theorem compileRules_cons_eq_error_iff (valid : E.rule? r = some q) :
    E.compileRules i (r :: rules) = .error bad ↔ E.compileRules (i + 1) rules = .error bad := by
  rw [compileRules, valid]
  cases E.compileRules (i + 1) rules <;> simp [Except.map]

theorem compileRules_cons_eq_ok_iff (valid : E.rule? r = some q) :
    E.compileRules i (r :: rules) = .ok compiled ↔
      ∃ rest, E.compileRules (i + 1) rules = .ok rest ∧ q :: rest = compiled := by
  rw [compileRules, valid]
  cases E.compileRules (i + 1) rules <;> simp [Except.map]

theorem compileRules_eq_error_iff :
    E.compileRules i rules = .error bad ↔
      ∃ j, bad.index = i + j ∧ BadRule.IsFirst ⟨j, bad.pattern⟩ E rules := by
  induction rules generalizing i with
  | nil =>
    refine iff_of_false nofun ?_
    rintro ⟨j, -, first⟩
    exact BadRule.not_isFirst_nil first
  | cons r rules ih =>
    cases read : E.rule? r with
    | none =>
      have invalid : ¬ E.isValid r.pattern := by simp [isValid_iff_isSome_rule?, read]
      rw [compileRules_of_invalid read]
      constructor
      · intro failed
        obtain rfl := Except.error.inj failed
        exact ⟨0, rfl, BadRule.isFirst_zero_cons.2 ⟨rfl, invalid⟩⟩
      · rintro ⟨_ | j, place, first⟩
        · obtain ⟨named, -⟩ := BadRule.isFirst_zero_cons.1 first
          obtain ⟨index, text⟩ := bad
          obtain rfl : index = i := place
          obtain rfl : r.pattern = text := named
          rfl
        · exact absurd (BadRule.isFirst_succ_cons.1 first).1 invalid
    | some q =>
      have valid : E.isValid r.pattern := by simp [isValid_iff_isSome_rule?, read]
      rw [compileRules_cons_eq_error_iff read, ih]
      constructor
      · rintro ⟨j, place, first⟩
        exact ⟨j + 1, by omega, BadRule.isFirst_succ_cons.2 ⟨valid, first⟩⟩
      · rintro ⟨_ | j, place, first⟩
        · obtain ⟨named, invalid⟩ := BadRule.isFirst_zero_cons.1 first
          exact absurd (named ▸ valid) invalid
        · exact ⟨j, by omega, (BadRule.isFirst_succ_cons.1 first).2⟩

-- The other rule that is not valid is not looked at.
example : RequestKeys.compileRules 0 [⟨['a'], []⟩, ⟨['('], []⟩, ⟨['['], []⟩] = .error ⟨1, ['(']⟩ := rfl

theorem compileRules_eq_ok_iff :
    E.compileRules i rules = .ok compiled ↔ List.Forall₂ E.Compiles rules compiled := by
  induction rules generalizing i compiled with
  | nil => cases compiled <;> simp [compileRules]
  | cons r rules ih =>
    rw [List.forall₂_cons_left_iff]
    cases read : E.rule? r with
    | none =>
      rw [compileRules_of_invalid read]
      simp [← rule?_eq_some_iff, read]
    | some q =>
      rw [compileRules_cons_eq_ok_iff read]
      constructor
      · rintro ⟨rest, others, rfl⟩
        exact ⟨q, rest, rule?_eq_some_iff.1 read, ih.1 others, rfl⟩
      · rintro ⟨q', rest, compiles, others, rfl⟩
        obtain rfl := Option.some.inj (read.symm.trans (rule?_eq_some_iff.2 compiles))
        exact ⟨rest, ih.2 others, rfl⟩

theorem exists_compileRules_iff :
    (∃ compiled, E.compileRules i rules = .ok compiled) ↔ ∀ r ∈ rules, E.isValid r.pattern := by
  induction rules generalizing i with
  | nil => simp [compileRules]
  | cons r rules ih =>
    rw [List.forall_mem_cons, ← ih (i := i + 1), isValid_iff_isSome_rule?]
    cases read : E.rule? r with
    | none => simp [compileRules_of_invalid read]
    | some q => simp [compileRules_cons_eq_ok_iff read]

section Compiled

variable (h : List.Forall₂ E.Compiles rules compiled)

include h

theorem texts_of_compiled :
    compiled.map (fun q => (q.pattern, q.replacement)) =
      rules.map fun r => (r.pattern, r.replacement) := by
  induction h with
  | nil => rfl
  | cons first _ ih => rw [List.map_cons, List.map_cons, first.texts_eq, ih]

/-- Paths are rerouted by what the rules say, in their order. -/
theorem reroute_of_compiled (path : List Char) :
    Path.reroute compiled path =
      rules.foldl (fun path r => if E.matchesIn r path then r.replacement else path) path := by
  induction h generalizing path with
  | nil => rfl
  | @cons r q rules compiled first _ ih =>
    show Path.reroute compiled (q.apply path) = _
    rw [ih, first.apply_eq, List.foldl_cons]

end Compiled

/-! ## Settings and key builders -/

theorem compileSettings_eq_error_iff :
    E.compileSettings s = .error bad ↔ E.compileRules 0 s.rules = .error bad := by
  simp [compileSettings, bind_eq_error_iff]

theorem compileSettings_eq_ok_iff :
    E.compileSettings s = .ok c ↔
      E.compileRules 0 s.rules = .ok c.rules ∧ c.detection = s.detection ∧
        c.parameter = s.parameter := by
  obtain ⟨detection, compiled, parameter⟩ := c
  rw [compileSettings, bind_eq_ok_iff]
  constructor
  · rintro ⟨rules, done, made⟩
    cases made
    exact ⟨done, rfl, rfl⟩
  · rintro ⟨done, rfl, rfl⟩
    exact ⟨compiled, done, rfl⟩

theorem keyBuilder_eq_error_iff :
    E.keyBuilder s = .error bad ↔ E.compileSettings s = .error bad := by
  simp [keyBuilder, bind_eq_error_iff]

theorem keyBuilder_eq_ok_iff :
    E.keyBuilder s = .ok b ↔ ∃ c, E.compileSettings s = .ok c ∧ c.keyBuilder = b := by
  simp [keyBuilder, bind_eq_ok_iff]

theorem exists_compileSettings_iff :
    (∃ c, E.compileSettings s = .ok c) ↔ ∀ r ∈ s.rules, E.isValid r.pattern := by
  rw [← exists_compileRules_iff (i := 0)]
  constructor
  · rintro ⟨c, done⟩
    exact ⟨c.rules, (compileSettings_eq_ok_iff.1 done).1⟩
  · rintro ⟨compiled, done⟩
    exact ⟨⟨s.detection, compiled, s.parameter⟩, compileSettings_eq_ok_iff.2 ⟨done, rfl, rfl⟩⟩

end Pattern.Engine

namespace Settings

/-- The field for a kind says whether the kind is looked for. -/
theorem looksFor_detection (s : Settings) (k : Path.Kind) :
    s.detection.looksFor true k = (Field.kind k).value s := by
  cases k <;> rfl

/-- Each kind is found if the field for it says so, images and fonts in the last segment only. -/
theorem finds_iff (s : Settings) (last : Bool) (segment : List Char) (k : Path.Kind) :
    s.detection.Finds last segment k ↔
      (Field.kind k).value s = true ∧ (k = .image ∨ k = .font → last = true) ∧ k.test segment := by
  have placed : s.detection.looksFor last k = true ↔
      s.detection.looksFor true k = true ∧ (k = .image ∨ k = .font → last = true) := by
    cases k <;> simp [Path.Detection.looksFor, and_comm]
  rw [Path.Detection.Finds, placed, and_assoc, looksFor_detection]
  exact Iff.rfl

end Settings

/-! ## The main statement -/

namespace Pattern.Engine

/-- Settings cannot be compiled, and make no key builder, exactly if a pattern is not valid, and the
failure names the first of these.  Else compiled settings have a rule for each that is configured, in
the same order and with the same texts, paths are rerouted as these say, a kind is found in segments
that pass its test if its own field is set, and the parameter is the one that is configured; and the
key builder has just these rules, kinds and parameter. -/
theorem compileSettings_eq_error_iff_isFirst (E : Engine) (s : Settings) :
    (∀ bad : BadRule, E.compileSettings s = .error bad ↔ bad.IsFirst E s.rules) ∧
      (∀ bad : BadRule, E.keyBuilder s = .error bad ↔ bad.IsFirst E s.rules) ∧
      ((∃ c, E.compileSettings s = .ok c) ↔ ∀ r ∈ s.rules, E.isValid r.pattern) ∧
      ((∃ b, E.keyBuilder s = .ok b) ↔ ∀ r ∈ s.rules, E.isValid r.pattern) ∧
      (∀ c, E.compileSettings s = .ok c →
        (c.rules.map fun q => (q.pattern, q.replacement)) =
          (s.rules.map fun r => (r.pattern, r.replacement)) ∧
        (∀ path, Path.reroute c.rules path =
          s.rules.foldl (fun path r => if E.matchesIn r path then r.replacement else path) path) ∧
        (∀ k last segment, c.detection.Finds last segment k ↔
          (Field.kind k).value s = true ∧ (k = .image ∨ k = .font → last = true) ∧
            k.test segment) ∧
        c.parameter = s.parameter) ∧
      ∀ b, E.keyBuilder s = .ok b → ∃ c, E.compileSettings s = .ok c ∧
        b.sanitizer.rules = c.rules ∧ b.sanitizer.detection = c.detection ∧
        b.parameter = c.parameter := by
  have failed (bad : BadRule) : E.compileSettings s = .error bad ↔ bad.IsFirst E s.rules := by
    rw [compileSettings_eq_error_iff, compileRules_eq_error_iff]
    simp
  refine ⟨failed, fun bad => keyBuilder_eq_error_iff.trans (failed bad), exists_compileSettings_iff,
    ?_, fun c done => ?_, fun b made => ?_⟩
  · rw [← exists_compileSettings_iff]
    simp [keyBuilder_eq_ok_iff]
  · obtain ⟨done, detection, parameter⟩ := compileSettings_eq_ok_iff.1 done
    have compiles := compileRules_eq_ok_iff.1 done
    refine ⟨texts_of_compiled compiles, reroute_of_compiled compiles, fun k last segment => ?_,
      parameter⟩
    rw [detection, Settings.finds_iff]
  · obtain ⟨c, done, rfl⟩ := keyBuilder_eq_ok_iff.1 made
    exact ⟨c, done, rfl, rfl, rfl⟩

-- Each field sets its own kind.
example : (Settings.compile { Settings.defaults with ips := false }).map (·.sanitizer.detection) =
    .ok { Path.Detection.all with ips := false } := rfl

end Pattern.Engine

end RequestKeys
