import RequestKeys.Proofs.Config.Layers
import RequestKeys.Proofs.Number.Written
import RequestKeys.Proofs.Request.Selection

/-!
# The variable of the parameter

A variable is read before it is known which field it sets.  A text that spells a truth value or a
number is taken as that, and the name of a parameter, for which a text is wanted, is what this value
is written as, which need not be the text that spelled it (`load_parameterVariable`).
-/

namespace RequestKeys.Config

open Number (Signed SpellsNatural SpellsSize smallLetters)

variable {text v : List Char} {value : Value} {n : Int} {x : Float} {b : Bool}

/-! ## What the text of a variable spells -/

/-- The word for a truth value. -/
def truthWord (b : Bool) : List Char :=
  if b then ['t', 'r', 'u', 'e'] else ['f', 'a', 'l', 's', 'e']

/-- The integers of 64 bits. -/
def IsInt64 (n : Int) : Prop := -9223372036854775808 ≤ n ∧ n ≤ 9223372036854775807

/-- A text spells a truth value in any case, an integer of 64 bits, or else a double. -/
inductive SpellsScalar (text : List Char) : Value → Prop
  | truth {b : Bool} (h : smallLetters text = truthWord b) : SpellsScalar text (.bool b)
  | integer {n : Int} (h : Signed SpellsNatural text n) (small : IsInt64 n) :
    SpellsScalar text (.integer n)
  | real {x : Float} (h : Signed SpellsSize text x)
    (other : ∀ n, Signed SpellsNatural text n → ¬ IsInt64 n) : SpellsScalar text (.real x)

theorem readInt64?_eq_some_iff :
    Number.readInt64? text = some n ↔ Signed SpellsNatural text n ∧ IsInt64 n := by
  rw [Number.readInt64?, Option.filter_eq_some_iff, Number.readInt?_eq_some_iff, IsInt64]
  simp

theorem readInt64?_eq_none_iff :
    Number.readInt64? text = none ↔ ∀ n, Signed SpellsNatural text n → ¬ IsInt64 n := by
  rw [Option.eq_none_iff_forall_ne_some]
  simp only [ne_eq, readInt64?_eq_some_iff, not_and]

/-- What spells an integer spells a double. -/
theorem exists_spellsSize (h : Signed SpellsNatural text n) : ∃ x, Signed SpellsSize text x := by
  have natural {text : List Char} {n : Int} (h : SpellsNatural text n) :
      ∃ x, SpellsSize text x := by
    obtain ⟨digits⟩ := h
    have decimal := Number.SpellsDecimal.whole digits .missing
    rw [List.append_nil] at decimal
    exact ⟨_, .finite decimal⟩
  cases h with
  | bare h => exact (natural h).imp fun x => .bare
  | plus h => exact (natural h).imp fun x => .plus
  | minus h => exact (natural h).elim fun x hx => ⟨-x, .minus hx⟩

/-- No number is spelled by a word for a truth value. -/
theorem smallLetters_ne_truthWord (h : Signed SpellsSize text x) (b : Bool) :
    smallLetters text ≠ truthWord b := by
  cases h with
  | bare h => cases h with
    | infinite word => rcases word with word | word <;> rw [word] <;> cases b <;> decide
    | undefined word => rw [word]; cases b <;> decide
    | finite decimal =>
      intro word
      cases b
      · have other : isDigit 'f' = false := rfl
        exact decimal.head?_smallLetters_ne other (by decide) (word ▸ rfl)
      · have other : isDigit 't' = false := rfl
        exact decimal.head?_smallLetters_ne other (by decide) (word ▸ rfl)
  | plus h =>
    intro word
    have first := congrArg List.head? word
    rw [Number.head?_smallLetters rfl (by decide)] at first
    cases b <;> exact absurd first (by decide)
  | minus h =>
    intro word
    have first := congrArg List.head? word
    rw [Number.head?_smallLetters rfl (by decide)] at first
    cases b <;> exact absurd first (by decide)

theorem ofVariable_truth (h : smallLetters text = truthWord b) :
    Value.ofVariable text = .bool b := by
  rw [Value.ofVariable, h]
  cases b <;> rfl

theorem ofVariable_of_ne (h : ∀ b, smallLetters text ≠ truthWord b) :
    Value.ofVariable text =
      match Number.readInt64? text with
      | some n => .integer n
      | none => match Number.readFloat? text with
        | some x => .real x
        | none => .text text := by
  unfold Value.ofVariable
  split
  · next word => exact absurd (eq_toList_of_ofList word) (h true)
  · next word => exact absurd (eq_toList_of_ofList word) (h false)
  · rfl

/-- A variable has the value that its text spells. -/
theorem SpellsScalar.ofVariable_eq (h : SpellsScalar text value) :
    Value.ofVariable text = value := by
  cases h with
  | truth h => exact ofVariable_truth h
  | integer h small =>
    obtain ⟨x, double⟩ := exists_spellsSize h
    rw [ofVariable_of_ne (smallLetters_ne_truthWord double), readInt64?_eq_some_iff.2 ⟨h, small⟩]
  | real h other =>
    rw [ofVariable_of_ne (smallLetters_ne_truthWord h), readInt64?_eq_none_iff.2 other,
      Number.readFloat?_eq_some_iff.2 h]

/-- A variable whose text spells no value has its text. -/
theorem ofVariable_eq_text (h : ∀ value, ¬ SpellsScalar text value) :
    Value.ofVariable text = .text text := by
  rw [ofVariable_of_ne fun b word => h _ (.truth word)]
  have no_integer : Number.readInt64? text = none :=
    readInt64?_eq_none_iff.2 fun n integer small => h _ (.integer integer small)
  cases double : Number.readFloat? text with
  | none => rw [no_integer]
  | some x =>
    exact absurd (.real (Number.readFloat?_eq_some_iff.1 double)
      (readInt64?_eq_none_iff.1 no_integer)) (h _)

/-! ## Texts that are kept -/

/-- A text that is kept as it stands: it spells no value, or it is what a truth value, an integer of
64 bits or a double is written as.  The negative zero is read as an integer, which has no sign. -/
inductive IsKept (v : List Char) : Prop
  | text (h : ∀ value, ¬ SpellsScalar v value)
  | truth (b : Bool) (h : v = truthWord b)
  | integer (n : Int) (small : IsInt64 n) (h : v = Json.writeInt n)
  | real (x : Float) (signed : v ≠ ['-', '0']) (h : v = Number.plain x)

theorem toText_bool (b : Bool) : (Value.bool b).toText = .ok (truthWord b) := rfl

/-- What a text spells can be written as a text. -/
theorem SpellsScalar.exists_toText (h : SpellsScalar v value) :
    ∃ text, value.toText = .ok text := by
  cases h <;> exact ⟨_, rfl⟩

theorem smallLetters_truthWord (b : Bool) : smallLetters (truthWord b) = truthWord b := by
  cases b <;> rfl

/-- A text spells one value. -/
theorem SpellsScalar.value_eq {value' : Value} (h : SpellsScalar v value)
    (h' : SpellsScalar v value') : value = value' := by
  rw [← h.ofVariable_eq, ← h'.ofVariable_eq]

/-- What a double is written as spells a value that is written alike, but for the negative zero. -/
theorem exists_spellsScalar_plain (x : Float) (signed : Number.plain x ≠ ['-', '0']) :
    ∃ value, SpellsScalar (Number.plain x) value ∧ value.toText = .ok (Number.plain x) := by
  by_cases whole : ∃ n, Signed SpellsNatural (Number.plain x) n ∧ IsInt64 n
  · obtain ⟨n, spelled, small⟩ := whole
    have written := (Number.writeInt_eq_iff spelled).2 (Number.isInteger_plain spelled signed)
    exact ⟨_, .integer spelled small, by rw [Value.toText, written]⟩
  · exact ⟨_, .real (Number.spells_plain x) fun n spelled small => whole ⟨n, spelled, small⟩, rfl⟩

/-- The negative zero is read as an integer. -/
theorem spellsScalar_negativeZero : SpellsScalar ['-', '0'] (.integer (-0)) := by
  have digits : IsDigits ['0'] := ⟨List.cons_ne_nil _ _, List.forall_mem_singleton.2 rfl⟩
  exact .integer (.minus (.digits digits)) ⟨by decide, by decide⟩

/-- What a value is written as is the text that spelled it exactly if this is kept. -/
theorem SpellsScalar.toText_eq_iff (h : SpellsScalar v value) :
    value.toText = .ok v ↔ IsKept v := by
  constructor
  · intro written
    cases h with
    | @truth b word => exact .truth b (Except.ok.inj written).symm
    | @integer n integer small => exact .integer n small (Except.ok.inj written).symm
    | @real x double other =>
      refine .real x (fun zero => ?_) (Except.ok.inj written).symm
      subst zero
      cases SpellsScalar.value_eq (.real double other) spellsScalar_negativeZero
  · intro kept
    cases kept with
    | text plain => exact absurd h (plain value)
    | truth b same =>
      subst same
      rw [h.value_eq (.truth (smallLetters_truthWord b)), toText_bool]
    | integer n small same =>
      subst same
      rw [h.value_eq (.integer (Number.spells_writeInt n) small), Value.toText]
    | real x signed same =>
      subst same
      obtain ⟨value', spelled, written⟩ := exists_spellsScalar_plain x signed
      rw [h.value_eq spelled, written]

/-! ## Loading one variable -/

/-- The name of the variable for the parameter. -/
def parameterVariable : List Char := "SLOKEY_QUERY_PARAM_NAME".toList

/-- An environment in which no other variable is one of the program. -/
def parameterOnly (before after : Environment) (v : List Char) : Environment :=
  before ++ (parameterVariable, v) :: after

variable {before after : Environment}

theorem layer_eq_nil {e : Environment} (h : ∀ a ∈ e, variableKey? a.1 = none) : e.layer = [] := by
  refine List.filterMap_eq_nil_iff.2 fun a ha => ?_
  show (variableKey? a.1).map _ = none
  rw [h a ha]
  rfl

theorem layer_parameterOnly (others : ∀ a ∈ before ++ after, variableKey? a.1 = none)
    (v : List Char) :
    (parameterOnly before after v).layer = [(Field.key .parameter, .ofVariable v)] := by
  have none_before : Environment.layer before = [] :=
    layer_eq_nil fun a ha => others a (List.mem_append_left _ ha)
  have none_after : Environment.layer after = [] :=
    layer_eq_nil fun a ha => others a (List.mem_append_right _ ha)
  rw [Environment.layer] at none_before none_after ⊢
  rw [parameterOnly, List.filterMap_append, List.filterMap_cons, none_before, none_after]
  rfl

theorem setsFields_parameterOnly (others : ∀ a ∈ before ++ after, variableKey? a.1 = none)
    (v : List Char) : (parameterOnly before after v).SetsFields := by
  constructor
  · rw [layer_parameterOnly others]
    exact List.forall_mem_singleton.2 ⟨.parameter, rfl⟩
  · rw [layer_parameterOnly others]
    exact List.nodup_singleton _

/-- The settings are the defaults with the text of the variable's value as the parameter. -/
theorem load_parameterOnly (others : ∀ a ∈ before ++ after, variableKey? a.1 = none)
    (h : (Value.ofVariable v).toText = .ok text) (further : Formats) :
    further.load none (parameterOnly before after v) =
      .ok { Settings.defaults with parameter := text } := by
  have parsed : further.fileTable none = .ok [] := rfl
  rw [load_eq_ofLayers parsed, ofLayers_eq_ok_iff (setsFields_parameterOnly others v)]
  refine ⟨fun a ha => absurd ha List.not_mem_nil, fun f => ?_⟩
  rw [chosen?, layer_parameterOnly others]
  cases f with
  | parameter => exact h
  | rules => rfl
  | kind k => cases k <;> rfl

theorem values_of_parameter (text : List Char) (e : Event) (query : List Char) :
    KeyBuilder.values ⟨⟨.all, []⟩, text⟩ (e.withQuery (some query)) =
      if text = [] then []
      else (Target.named text query).map fun piece => (Target.pairOf piece).2 := by
  by_cases unasked : text = []
  · rw [if_pos unasked, KeyBuilder.values_of_parameter_eq_nil unasked]
  · rw [if_neg unasked, KeyBuilder.values_withQuery unasked]

/-- With the variable of the parameter as the only one, settings are always loaded and compiled,
whatever formats there are and whatever the engine: they are the defaults with a parameter, whose
values go into keys and no others.  The parameter is what the value that the variable's text spells is
written as, or the text itself if it spells none, and it is the text exactly if this is one of those
that are kept. -/
theorem load_parameterVariable (others : ∀ a ∈ before ++ after, variableKey? a.1 = none)
    (v : List Char) :
    ∃ text, (∀ further : Formats, further.load none (parameterOnly before after v) =
        .ok { Settings.defaults with parameter := text }) ∧
      (∀ E : Pattern.Engine,
        E.keyBuilder { Settings.defaults with parameter := text } = .ok ⟨⟨.all, []⟩, text⟩) ∧
      (∀ (e : Event) (query : List Char),
        KeyBuilder.values ⟨⟨.all, []⟩, text⟩ (e.withQuery (some query)) =
          if text = [] then []
          else (Target.named text query).map fun piece => (Target.pairOf piece).2) ∧
      (∀ value, SpellsScalar v value → value.toText = .ok text) ∧
      (text = v ↔ IsKept v) := by
  by_cases spelled : ∃ value, SpellsScalar v value
  · obtain ⟨value, spelled⟩ := spelled
    obtain ⟨text, written⟩ := spelled.exists_toText
    refine ⟨text, load_parameterOnly others (by rw [spelled.ofVariable_eq, written]),
      fun _ => rfl, values_of_parameter text, fun value' spelled' => ?_, ?_⟩
    · rw [← spelled'.ofVariable_eq, spelled.ofVariable_eq, written]
    · rw [← spelled.toText_eq_iff, written, Except.ok.injEq]
  · have plain : ∀ value, ¬ SpellsScalar v value := not_exists.1 spelled
    refine ⟨v, load_parameterOnly others (by rw [ofVariable_eq_text plain]; rfl), fun _ => rfl,
      values_of_parameter v, fun value spelled => absurd spelled (plain value), ?_⟩
    exact iff_of_true rfl (.text plain)

/-- Another variable, and a number with a needless sign. -/
theorem load_parameterVariable_plus :
    (∀ a ∈ [(['H', 'O', 'M', 'E'], ['/'])] ++ [], variableKey? a.1 = none) ∧
      load none (parameterOnly [(['H', 'O', 'M', 'E'], ['/'])] [] ['+', '5']) =
        .ok { Settings.defaults with parameter := ['5'] } := by
  have others : ∀ a ∈ [(['H', 'O', 'M', 'E'], ['/'])] ++ [], variableKey? a.1 = none := by
    simp only [List.append_nil, List.forall_mem_singleton]
    decide
  refine ⟨others, ?_⟩
  obtain ⟨text, loaded, -, -, written, -⟩ := load_parameterVariable others ['+', '5']
  have spelled : SpellsScalar ['+', '5'] (.integer 5) :=
    .integer (.plus (.digits ⟨by decide, List.forall_mem_singleton.2 rfl⟩)) ⟨by decide, by decide⟩
  rw [load, loaded, ← Except.ok.inj (written _ spelled)]
  rfl

/-- Zeros in front of a number are lost, and so is the case of a truth value. -/
theorem load_parameter_not_verbatim :
    load none [(parameterVariable, ['0', '0', '7'])] =
        .ok { Settings.defaults with parameter := ['7'] } ∧
      load none [(parameterVariable, ['T', 'R', 'U', 'E'])] =
        .ok { Settings.defaults with parameter := ['t', 'r', 'u', 'e'] } ∧
      ¬ ∀ v, load none [(parameterVariable, v)] =
        .ok { Settings.defaults with parameter := v } := by
  have zeros : load none [(parameterVariable, ['0', '0', '7'])] =
      .ok { Settings.defaults with parameter := ['7'] } := rfl
  refine ⟨zeros, rfl, fun verbatim => ?_⟩
  have same := zeros.symm.trans (verbatim ['0', '0', '7'])
  cases same

end RequestKeys.Config
