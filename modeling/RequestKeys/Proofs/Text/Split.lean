import Mathlib.Tactic.SplitIfs
import RequestKeys.Text.Split

/-!
# Pieces and joins

`pieces` and `join` are the library's `List.splitOn` and `List.intercalate` for one separator, and
so they undo each other: always when a list is cut and joined again, and where no piece contains the
separator when pieces are joined and cut again.
-/

namespace RequestKeys.Split

variable {α : Type} [DecidableEq α] {sep : α}

theorem pieces_eq_splitOn (sep : α) (l : List α) : pieces sep l = l.splitOn sep := by
  induction l with
  | nil => simp [pieces]
  | cons c rest ih =>
    rw [pieces, List.splitOn_cons_eq_if_modifyHead, ih]
    by_cases h : c = sep
    · simp [h]
    · rw [if_neg h, if_neg (by simpa using h)]
      obtain ⟨p, ps, split⟩ := List.exists_cons_of_ne_nil (List.splitOn_ne_nil sep rest)
      rw [split]
      rfl

omit [DecidableEq α] in
theorem join_eq_intercalate (sep : α) (ps : List (List α)) :
    join sep ps = [sep].intercalate ps := by
  induction ps with
  | nil => rfl
  | cons p ps ih =>
    cases ps with
    | nil => simp [join]
    | cons q qs => simp [join, ih]

theorem pieces_ne_nil (sep : α) (l : List α) : pieces sep l ≠ [] := by
  rw [pieces_eq_splitOn]
  exact List.splitOn_ne_nil sep l

@[simp]
theorem join_pieces (sep : α) (l : List α) : join sep (pieces sep l) = l := by
  rw [join_eq_intercalate, pieces_eq_splitOn]
  exact List.intercalate_splitOn sep

theorem pieces_join {ps : List (List α)} (h : ∀ p ∈ ps, sep ∉ p) (hne : ps ≠ []) :
    pieces sep (join sep ps) = ps := by
  rw [join_eq_intercalate, pieces_eq_splitOn]
  exact List.splitOn_intercalate sep h hne

omit [DecidableEq α] in
theorem head?_join_cons {p : List α} (h : p ≠ []) (ps : List (List α)) :
    (join sep (p :: ps)).head? = p.head? := by
  obtain ⟨c, rest, rfl⟩ := List.exists_cons_of_ne_nil h
  cases ps <;> rfl

omit [DecidableEq α] in
theorem join_cons {ps : List (List α)} (p : List α) (h : ps ≠ []) :
    join sep (p :: ps) = p ++ sep :: join sep ps := by
  obtain ⟨q, qs, rfl⟩ := List.exists_cons_of_ne_nil h
  rfl

omit [DecidableEq α] in
theorem join_append {ps qs : List (List α)} (hp : ps ≠ []) (hq : qs ≠ []) :
    join sep (ps ++ qs) = join sep ps ++ sep :: join sep qs := by
  induction ps with
  | nil => exact absurd rfl hp
  | cons p ps ih =>
    cases ps with
    | nil => exact join_cons p hq
    | cons p' ps =>
      rw [List.cons_append, join_cons p (by simp), ih (by simp), join_cons p (by simp)]
      simp

omit [DecidableEq α] in
theorem getLast?_join_concat (ps : List (List α)) {p : List α} (h : p ≠ []) :
    (join sep (ps ++ [p])).getLast? = p.getLast? := by
  by_cases only : ps = []
  · subst only
    rfl
  · obtain ⟨c, rest, rfl⟩ := List.exists_cons_of_ne_nil h
    rw [join_append only (by simp), List.getLast?_append]
    simp [join, List.getLast?_cons]

omit [DecidableEq α] in
/-- Leaving out parts, each with its separator, makes no join longer. -/
theorem length_join_le (sep : α) {ps qs : List (List α)} (h : ps.Sublist qs) :
    (join sep ps).length ≤ (join sep qs).length := by
  induction h with
  | slnil => exact Nat.le_refl _
  | @cons ps qs q _ ih =>
    by_cases last : qs = []
    · subst last
      exact Nat.le_trans ih (Nat.zero_le _)
    · rw [join_cons q last, List.length_append, List.length_cons]
      omega
  | @cons_cons ps qs q h ih =>
    by_cases last : qs = []
    · subst last
      obtain rfl : ps = [] := List.sublist_nil.1 h
      exact Nat.le_refl _
    · rw [join_cons q last, List.length_append, List.length_cons]
      by_cases alone : ps = []
      · subst alone
        exact Nat.le_add_right _ _
      · rw [join_cons q alone, List.length_append, List.length_cons]
        omega

theorem not_mem_of_mem_pieces {l p : List α} (h : p ∈ pieces sep l) : sep ∉ p := by
  induction l generalizing p with
  | nil => simp_all [pieces]
  | cons c rest ih =>
    rw [pieces] at h
    split_ifs at h with hc
    · rcases List.mem_cons.1 h with rfl | h
      · exact List.not_mem_nil
      · exact ih h
    · obtain ⟨q, qs, split⟩ := List.exists_cons_of_ne_nil (pieces_ne_nil sep rest)
      rw [split] at h ih
      rcases List.mem_cons.1 h with rfl | h
      · have hq := ih List.mem_cons_self
        simp [hq, Ne.symm hc]
      · exact ih (List.mem_cons_of_mem _ h)

theorem pieces_eq_singleton {l : List α} (h : sep ∉ l) : pieces sep l = [l] := by
  rw [pieces_eq_splitOn, List.splitOn_eq_singleton h]

@[simp]
theorem pieces_append_cons (sep : α) (l rest : List α) :
    pieces sep (l ++ sep :: rest) = pieces sep l ++ pieces sep rest := by
  simp only [pieces_eq_splitOn, List.splitOn_append_cons_self]

theorem pieces_injective (sep : α) : Function.Injective (pieces sep) := fun l m h => by
  rw [← join_pieces sep l, h, join_pieces]

/-! ## Elements -/

omit [DecidableEq α] in
theorem mem_join {ps : List (List α)} {c : α} (h : c ∈ join sep ps) :
    c = sep ∨ ∃ p ∈ ps, c ∈ p := by
  induction ps with
  | nil => exact absurd h List.not_mem_nil
  | cons p ps ih =>
    by_cases last : ps = []
    · subst last
      exact .inr ⟨p, List.mem_cons_self, h⟩
    · rw [join_cons p last, List.mem_append, List.mem_cons] at h
      rcases h with here | rfl | there
      · exact .inr ⟨p, List.mem_cons_self, here⟩
      · exact .inl rfl
      · obtain rfl | ⟨q, hq, hc⟩ := ih there
        · exact .inl rfl
        · exact .inr ⟨q, List.mem_cons_of_mem _ hq, hc⟩

omit [DecidableEq α] in
theorem infix_join_of_mem {ps : List (List α)} {p : List α} (h : p ∈ ps) : p <:+: join sep ps := by
  induction ps with
  | nil => cases h
  | cons q qs ih =>
    by_cases last : qs = []
    · subst last
      rw [List.mem_singleton.1 h]
      exact List.infix_rfl
    · rw [join_cons q last]
      rcases List.mem_cons.1 h with rfl | h
      · exact (List.prefix_append p _).isInfix
      · exact (ih h).trans ⟨q ++ [sep], [], by simp⟩

theorem eq_or_mem_of_mem (sep : α) {l : List α} {c : α} (h : c ∈ l) :
    c = sep ∨ ∃ p ∈ pieces sep l, c ∈ p := by
  rw [← join_pieces sep l] at h
  exact mem_join h

theorem mem_of_length_pieces_ne_one {l : List α} (h : (pieces sep l).length ≠ 1) : sep ∈ l :=
  Decidable.of_not_not fun missing =>
    h (by rw [pieces_eq_singleton missing, List.length_singleton])

theorem infix_of_mem_pieces {l p : List α} (h : p ∈ pieces sep l) : p <:+: l :=
  join_pieces sep l ▸ infix_join_of_mem h

theorem mem_of_mem_pieces {l p : List α} {c : α} (h : p ∈ pieces sep l) (hc : c ∈ p) : c ∈ l :=
  (infix_of_mem_pieces h).subset hc

omit [DecidableEq α] in
/-- Where an element stands at most at the start of each part, it stands at the start of the whole
or after a separator. -/
theorem eq_nil_or_getLast?_of_join_eq {ps : List (List α)} {c : α} (hc : c ≠ sep)
    (h : ∀ p ∈ ps, c ∉ p.tail) {before after : List α}
    (split : join sep ps = before ++ c :: after) :
    before = [] ∨ before.getLast? = some sep := by
  induction ps generalizing before with
  | nil => simp [join] at split
  | cons p ps ih =>
    have start {rest : List α} (first : p = before ++ c :: rest) : before = [] := by
      cases before with
      | nil => rfl
      | cons b bs => exact absurd (by simp [first]) (h p List.mem_cons_self)
    by_cases last : ps = []
    · subst last
      exact .inl (start split)
    · rw [join_cons p last] at split
      rcases List.append_eq_append_iff.1 split with ⟨rest, rfl, here⟩ | ⟨rest, first, here⟩
      · cases rest with
        | nil => exact absurd (List.cons.inj here).1.symm hc
        | cons s rest =>
          obtain ⟨rfl, there⟩ := List.cons.inj here
          rcases ih (fun q hq => h q (List.mem_cons_of_mem _ hq)) there with rfl | slash
          · exact .inr (by simp)
          · exact .inr (by simp [List.getLast?_append, List.getLast?_cons, slash])
      · cases rest with
        | nil => exact absurd (List.cons.inj here).1 hc
        | cons _ rest =>
          obtain ⟨rfl, -⟩ := List.cons.inj here
          exact .inl (start first)

/-! ## Lines -/

/-- Lists that are each ended by a separator are told apart exactly if none contains it. -/
theorem pieces_flatten_concat_iff (ls : List (List α)) :
    pieces sep (ls.map (· ++ [sep])).flatten = ls ++ [[]] ↔ ∀ l ∈ ls, sep ∉ l := by
  constructor
  · exact fun apart l hl => not_mem_of_mem_pieces (apart ▸ List.mem_append_left _ hl)
  · intro h
    induction ls with
    | nil => rfl
    | cons l ls ih =>
      have rest := ih fun k hk => h k (List.mem_cons_of_mem _ hk)
      rw [List.map_cons, List.flatten_cons, List.append_assoc, List.singleton_append,
        pieces_append_cons, pieces_eq_singleton (h l List.mem_cons_self), rest]
      rfl

theorem length_le_count_flatten_concat (ls : List (List α)) :
    ls.length ≤ (ls.map (· ++ [sep])).flatten.count sep := by
  induction ls with
  | nil => exact Nat.le_refl _
  | cons l ls ih =>
    simp only [List.map_cons, List.flatten_cons, List.count_append, List.count_singleton_self,
      List.length_cons]
    omega

/-- There are as many separators as lists exactly if no list contains one of its own. -/
theorem count_flatten_concat_iff (ls : List (List α)) :
    (ls.map (· ++ [sep])).flatten.count sep = ls.length ↔ ∀ l ∈ ls, sep ∉ l := by
  induction ls with
  | nil => simp
  | cons l ls ih =>
    have least : ls.length ≤ (ls.map (· ++ [sep])).flatten.count sep :=
      length_le_count_flatten_concat ls
    rw [List.forall_mem_cons, ← ih, ← List.count_eq_zero]
    simp only [List.map_cons, List.flatten_cons, List.count_append, List.count_singleton_self,
      List.length_cons]
    omega

/-! ## Cuts -/

theorem eq_append_of_cut_eq_some {l head tail : List α} (h : cut sep l = some (head, tail)) :
    l = head ++ sep :: tail := by
  induction l generalizing head with
  | nil => cases h
  | cons c rest ih =>
    rw [cut] at h
    split_ifs at h with here
    · obtain ⟨rfl, rfl⟩ := Prod.mk.inj (Option.some.inj h)
      rw [here, List.nil_append]
    · obtain ⟨⟨before, after⟩, found, joined⟩ := Option.map_eq_some_iff.1 h
      obtain ⟨rfl, rfl⟩ := Prod.mk.inj joined
      rw [ih found, List.cons_append]

theorem cut_append_cons {head : List α} (h : sep ∉ head) (tail : List α) :
    cut sep (head ++ sep :: tail) = some (head, tail) := by
  induction head with
  | nil => rw [List.nil_append, cut, if_pos rfl]
  | cons c head ih =>
    rw [List.mem_cons, not_or] at h
    rw [List.cons_append, cut, if_neg (Ne.symm h.1), ih h.2]
    rfl

theorem not_mem_of_cut_eq_some {l head tail : List α} (h : cut sep l = some (head, tail)) :
    sep ∉ head := by
  induction l generalizing head with
  | nil => cases h
  | cons c rest ih =>
    rw [cut] at h
    split_ifs at h with here
    · obtain ⟨rfl, rfl⟩ := Prod.mk.inj (Option.some.inj h)
      exact List.not_mem_nil
    · obtain ⟨⟨before, after⟩, found, joined⟩ := Option.map_eq_some_iff.1 h
      obtain ⟨rfl, rfl⟩ := Prod.mk.inj joined
      rw [List.mem_cons, not_or]
      exact ⟨Ne.symm here, ih found⟩

theorem cut_eq_some_iff {l head tail : List α} :
    cut sep l = some (head, tail) ↔ l = head ++ sep :: tail ∧ sep ∉ head := by
  refine ⟨fun h => ⟨eq_append_of_cut_eq_some h, not_mem_of_cut_eq_some h⟩, ?_⟩
  rintro ⟨rfl, h⟩
  exact cut_append_cons h tail

theorem cut_eq_none_iff {l : List α} : cut sep l = none ↔ sep ∉ l := by
  induction l with
  | nil => simp [cut]
  | cons c rest ih =>
    rw [cut, List.mem_cons, not_or, ← ih]
    split_ifs with here
    · simp [here]
    · simp [Ne.symm here]

theorem upTo_append {l : List α} (h : sep ∉ l) (rest : List α) :
    upTo sep (l ++ rest) = l ++ upTo sep rest :=
  List.takeWhile_append_of_pos fun _ hc => decide_eq_true fun same => h (same ▸ hc)

theorem upTo_eq_self {l : List α} (h : sep ∉ l) : upTo sep l = l := by
  simpa [upTo] using upTo_append h []

theorem upTo_append_cons {l : List α} (h : sep ∉ l) (rest : List α) :
    upTo sep (l ++ sep :: rest) = l := by
  rw [upTo_append h]
  simp [upTo]

theorem prefix_of_cut_eq_some {l head tail : List α} (h : cut sep l = some (head, tail)) :
    head <+: l :=
  ⟨sep :: tail, (eq_append_of_cut_eq_some h).symm⟩

theorem suffix_of_cut_eq_some {l head tail : List α} (h : cut sep l = some (head, tail)) :
    tail <:+ l :=
  ⟨head ++ [sep], by rw [eq_append_of_cut_eq_some h, List.append_assoc, List.singleton_append]⟩

theorem eq_append_of_cutAt_eq_some {mark l head tail : List α}
    (h : cutAt mark l = some (head, tail)) : l = head ++ mark ++ tail := by
  induction l generalizing head with
  | nil =>
    rw [cutAt] at h
    split_ifs at h with empty
    obtain ⟨rfl, rfl⟩ := Prod.mk.inj (Option.some.inj h)
    rw [List.isEmpty_iff.1 empty]
    rfl
  | cons c rest ih =>
    rw [cutAt] at h
    split_ifs at h with here
    · obtain ⟨rfl, rfl⟩ := Prod.mk.inj (Option.some.inj h)
      obtain ⟨after, whole⟩ := List.isPrefixOf_iff_prefix.1 here
      rw [← whole, List.nil_append, List.drop_left]
    · obtain ⟨⟨before, after⟩, found, joined⟩ := Option.map_eq_some_iff.1 h
      obtain ⟨rfl, rfl⟩ := Prod.mk.inj joined
      rw [ih found, List.cons_append, List.cons_append]

/-- A mark is found where its first element stands for the first time. -/
theorem cutAt_append_cons {c : α} {head : List α} (h : c ∉ head) (mark tail : List α) :
    cutAt (c :: mark) (head ++ c :: (mark ++ tail)) = some (head, tail) := by
  induction head with
  | nil =>
    have here : (c :: mark).isPrefixOf (c :: (mark ++ tail)) := by simp
    rw [List.nil_append, cutAt, if_pos here]
    simp
  | cons d head ih =>
    rw [List.mem_cons, not_or] at h
    have other : ¬ (c :: mark).isPrefixOf (d :: (head ++ c :: (mark ++ tail))) := by
      simp [h.1]
    rw [List.cons_append, cutAt, if_neg other, ih h.2]
    rfl

theorem suffix_of_cutAt_eq_some {mark l head tail : List α}
    (h : cutAt mark l = some (head, tail)) : tail <:+ l :=
  ⟨head ++ mark, (eq_append_of_cutAt_eq_some h).symm⟩

end RequestKeys.Split
