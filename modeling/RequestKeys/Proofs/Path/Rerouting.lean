import Mathlib.Data.Set.Card
import RequestKeys.Proofs.Path.Sanitized

/-!
# Where rules lead

The first rule that accepts a path decides where the path goes: from then on only its replacement
matters (`reroute_of_findIdx?`).  So paths with the same first rule have the same sanitized form,
and all paths that any rule accepts have no more sanitized forms than there are rules
(`reroute_and_sanitize_by_first_rule`).
-/

namespace RequestKeys.Path

variable {rules : List Rule} {path : List Char} {i : Nat}

/-! ## Rules in order -/

@[simp]
theorem reroute_cons (r : Rule) (rules : List Rule) (path : List Char) :
    reroute (r :: rules) path = reroute rules (r.apply path) := rfl

theorem reroute_eq_self (refused : ∀ r ∈ rules, ¬ r.accepts path) : reroute rules path = path := by
  induction rules with
  | nil => rfl
  | cons r rules ih =>
    rw [reroute_cons, Rule.apply, if_neg (refused r List.mem_cons_self)]
    exact ih fun q hq => refused q (List.mem_cons_of_mem _ hq)

/-- A path that a rule accepts gives way to the replacement of a rule that no later rule accepts. -/
theorem refused_or_replaced (rules : List Rule) (path : List Char) :
    (∀ r ∈ rules, ¬ r.accepts path) ∨
      ∃ j r, rules[j]? = some r ∧ reroute rules path = r.replacement ∧
        ∀ q ∈ rules.drop (j + 1), ¬ q.accepts r.replacement := by
  induction rules generalizing path with
  | nil => exact .inl nofun
  | cons r rules ih =>
    rw [reroute_cons]
    rcases ih (r.apply path) with refused | ⟨j, q, there, replaced, last⟩
    · by_cases accepted : r.accepts path
      · rw [Rule.apply, if_pos accepted] at refused ⊢
        exact .inr ⟨0, r, rfl, reroute_eq_self refused, refused⟩
      · rw [Rule.apply, if_neg accepted] at refused
        exact .inl (List.forall_mem_cons.2 ⟨accepted, refused⟩)
    · exact .inr ⟨j + 1, q, there, replaced, last⟩

/-! ## The first rule that accepts -/

/-- The rules before the first that accepts a path leave it alone, and those after it see nothing
but its replacement. -/
theorem reroute_of_findIdx? (first : rules.findIdx? (·.accepts path) = some i) :
    ∃ r, rules[i]? = some r ∧ reroute rules path = reroute (rules.drop (i + 1)) r.replacement := by
  induction rules generalizing i with
  | nil => cases first
  | cons q rules ih =>
    rw [List.findIdx?_cons] at first
    rw [reroute_cons, Rule.apply]
    split_ifs at first ⊢ with accepted
    · obtain rfl := Option.some.inj first
      exact ⟨q, rfl, rfl⟩
    · obtain ⟨j, found, rfl⟩ := Option.map_eq_some_iff.1 first
      exact ih found

/-- A path gives way to the replacement of the first rule that accepts it or of a later one. -/
theorem exists_last_of_findIdx? (first : rules.findIdx? (·.accepts path) = some i) :
    ∃ j r, i ≤ j ∧ rules[j]? = some r ∧ reroute rules path = r.replacement ∧
      ∀ q ∈ rules.drop (j + 1), ¬ q.accepts r.replacement := by
  obtain ⟨r, there, moved⟩ := reroute_of_findIdx? first
  rw [moved]
  rcases refused_or_replaced (rules.drop (i + 1)) r.replacement with
    refused | ⟨j, q, later, replaced, last⟩
  · exact ⟨i, r, Nat.le_refl i, there, reroute_eq_self refused, refused⟩
  · rw [List.getElem?_drop] at later
    rw [List.drop_drop] at last
    exact ⟨i + 1 + j, q, by omega, later, replaced, last⟩

/-! ## Sanitized forms -/

/-- The sanitized form only depends on where the rules lead. -/
theorem sanitize_eq_of_reroute_eq (s : Sanitizer) {p q : List Char} (hp : p ≠ []) (hq : q ≠ [])
    (same : reroute s.rules p = reroute s.rules q) : s.sanitize p = s.sanitize q := by
  rw [sanitize_eq_spell s hp, sanitize_eq_spell s hq, same]

/-- The forms of paths that a rule accepts are those of replacements, one for each rule. -/
theorem sanitize_image_subset (s : Sanitizer) :
    s.sanitize '' { path | path ≠ [] ∧ ∃ r ∈ s.rules, r.accepts path } ⊆
      (s.rules.map fun r =>
        ((Route.ofPath r.replacement).substitute s.detection).spell).toFinset := by
  rintro _ ⟨path, ⟨nonempty, r, listed, accepted⟩, rfl⟩
  rw [sanitize_eq_spell s nonempty]
  rcases refused_or_replaced s.rules path with refused | ⟨j, q, there, replaced, -⟩
  · exact absurd accepted (refused r listed)
  · rw [replaced]
    simpa using ⟨q, List.mem_of_getElem? there, rfl⟩

/-- A path that no rule accepts stays as it is; any other goes where the first rule that accepts it
leads, which is the replacement of a rule that no later one accepts.  So the first rule decides the
sanitized form, and there are at most as many of those forms as rules. -/
theorem reroute_and_sanitize_by_first_rule (rules : List Rule) :
    (∀ path, (∀ r ∈ rules, ¬ r.accepts path) → reroute rules path = path) ∧
      (∀ path i, rules.findIdx? (·.accepts path) = some i →
        (∃ r, rules[i]? = some r ∧
          reroute rules path = reroute (rules.drop (i + 1)) r.replacement) ∧
        ∃ j r, i ≤ j ∧ rules[j]? = some r ∧ reroute rules path = r.replacement ∧
          ∀ q ∈ rules.drop (j + 1), ¬ q.accepts r.replacement) ∧
      (∀ d p q i, p ≠ [] → q ≠ [] → rules.findIdx? (·.accepts p) = some i →
        rules.findIdx? (·.accepts q) = some i →
        Sanitizer.sanitize ⟨d, rules⟩ p = Sanitizer.sanitize ⟨d, rules⟩ q) ∧
      ∀ d, (Sanitizer.sanitize ⟨d, rules⟩ ''
        { path | path ≠ [] ∧ ∃ r ∈ rules, r.accepts path }).encard ≤ rules.length := by
  refine ⟨fun path => reroute_eq_self, fun path i first => ?_, fun d p q i hp hq ofP ofQ => ?_,
    fun d => ?_⟩
  · exact ⟨reroute_of_findIdx? first, exists_last_of_findIdx? first⟩
  · obtain ⟨r, there, moved⟩ := reroute_of_findIdx? ofP
    obtain ⟨r', there', moved'⟩ := reroute_of_findIdx? ofQ
    obtain rfl := Option.some.inj (there.symm.trans there')
    exact sanitize_eq_of_reroute_eq ⟨d, rules⟩ hp hq (moved.trans moved'.symm)
  · refine (Set.encard_le_encard (sanitize_image_subset ⟨d, rules⟩)).trans ?_
    rw [Set.encard_coe_eq_coe_finsetCard]
    exact_mod_cast (List.toFinset_card_le _).trans_eq (List.length_map _)

/-- A rule that does not accept the path accepts what the first one makes of it, and one that
accepts the path comes too late. -/
theorem reroute_and_sanitize_by_first_rule_chain :
    let rules : List Rule := [
      ⟨['^', 'o'], (['o'].isPrefixOf ·), ['n', '/', '7']⟩,
      ⟨['^', 'n'], (['n'].isPrefixOf ·), ['f', '/', '8']⟩,
      ⟨['^', 'o'], (['o'].isPrefixOf ·), ['x']⟩]
    reroute rules ['p'] = ['p'] ∧
      reroute rules ['o', '/', 'p'] = reroute (rules.drop 1) ['n', '/', '7'] ∧
      (∃ j r, 0 ≤ j ∧ rules[j]? = some r ∧ reroute rules ['o', '/', 'p'] = r.replacement ∧
        ∀ q ∈ rules.drop (j + 1), ¬ q.accepts r.replacement) ∧
      Sanitizer.sanitize ⟨.all, rules⟩ ['o', '/', 'p'] = Sanitizer.sanitize ⟨.all, rules⟩ ['o'] ∧
      (Sanitizer.sanitize ⟨.all, rules⟩ ''
        { path | path ≠ [] ∧ ∃ r ∈ rules, r.accepts path }).encard ≤ 3 := by
  intro rules
  obtain ⟨stays, moves, same, few⟩ := reroute_and_sanitize_by_first_rule rules
  obtain ⟨⟨r, there, moved⟩, last⟩ := moves ['o', '/', 'p'] 0 (by decide)
  obtain rfl := Option.some.inj there
  exact ⟨stays ['p'] (by decide), moved, last,
    same .all ['o', '/', 'p'] ['o'] 0 (by decide) (by decide) (by decide) (by decide), few .all⟩

end RequestKeys.Path
