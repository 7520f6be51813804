import Mathlib.Data.List.Forall2
import Mathlib.Tactic.SplitIfs
import RequestKeys.Config.Load

/-!
# Fields

Settings and rules are read from tables field by field: an entry whose name is that of a field sets
this field and no other, and any other entry is refused.  So a table is read exactly if all its
entries are those of fields and can be converted, and each field then has the value of the last entry
of its name (`Schema.get_of_foldEntries`).  From this follows which values spell settings
(`toSettings_eq_ok_iff`) and rules (`toRule_eq_ok_iff`).
-/

namespace RequestKeys

/-- What goes on with a result returns only after there is one. -/
theorem bind_eq_ok_iff {ε α β : Type} {first : Except ε α} {next : α → Except ε β} {b : β} :
    (first >>= next) = .ok b ↔ ∃ a, first = .ok a ∧ next a = .ok b := by
  cases first <;> simp [bind, Except.bind]

/-- What goes on with a result fails first where that fails. -/
theorem bind_eq_error_iff {ε α β : Type} {first : Except ε α} {next : α → Except ε β} {e : ε} :
    (first >>= next) = .error e ↔ first = .error e ∨ ∃ a, first = .ok a ∧ next a = .error e := by
  cases first <;> simp [bind, Except.bind]

namespace Config

/-! ## Entries by name -/

/-- The value of the last entry of a name. -/
def Table.last? (t : Table) (name : List Char) : Option Value := Table.get? t.reverse name

section Last

variable {t : Table} {name key : List Char} {value : Value}

theorem Table.last?_cons :
    Table.last? ((key, value) :: t) name =
      (t.last? name).or (if key = name then some value else none) := by
  unfold last? get?
  rw [List.reverse_cons, List.find?_append]
  cases t.reverse.find? (·.1 = name) with
  | some entry => rfl
  | none => by_cases here : key = name <;> simp [here]

theorem Table.mem_of_get? (h : t.get? name = some value) : (name, value) ∈ t := by
  obtain ⟨⟨key, found⟩, first, rfl⟩ := Option.map_eq_some_iff.1 h
  have same := List.find?_some first
  obtain rfl : key = name := by simpa using same
  exact List.mem_of_find?_eq_some first

theorem Table.mem_of_last? (h : t.last? name = some value) : (name, value) ∈ t :=
  List.mem_reverse.1 (mem_of_get? h)

theorem Table.last?_eq_get? (once : (t.map (·.1)).Nodup) (name : List Char) :
    t.last? name = t.get? name := by
  induction t with
  | nil => rfl
  | cons entry t ih =>
    obtain ⟨key, value⟩ := entry
    rw [List.map_cons, List.nodup_cons] at once
    rw [last?_cons, ih once.2, get?, get?, List.find?_cons]
    by_cases here : key = name
    · have later : t.find? (·.1 = name) = none := List.find?_eq_none.2 fun other found same =>
        once.1 (List.mem_map.2 ⟨other, found, (of_decide_eq_true same).trans here.symm⟩)
      simp [here, later]
    · simp [here]

end Last

/-! ## Records -/

/-- The fields of a record: their names, what they contain and how that is read from a value, and
where it stands in a draft of the record. -/
structure Schema (σ : Type) where
  Field : Type
  Content : Field → Type
  key : Field → List Char
  read : (f : Field) → Value → Except Failure (Content f)
  get : σ → (f : Field) → Option (Content f)
  put : σ → (f : Field) → Content f → σ
  key_injective : Function.Injective key
  get_put : ∀ s f c, get (put s f c) f = some c
  get_put_of_ne : ∀ s f c g, g ≠ f → get (put s f c) g = get s g

namespace Schema

variable {σ : Type} (S : Schema σ) {step : σ → List Char → Value → Except Failure σ} {s t : σ}
  {entries : Table}

/-- Entries are read by the schema: those of fields set their field, and others are refused. -/
structure Governs (step : σ → List Char → Value → Except Failure σ) : Prop where
  known : ∀ s f value, step s (S.key f) value = (S.read f value).bind fun c => .ok (S.put s f c)
  unknown : ∀ s key value, (∀ f, key ≠ S.key f) → step s key value = .error .message

/-- The entry is one of a field, and its value can be converted. -/
def Accepts (entry : List Char × Value) : Prop :=
  ∃ f c, entry.1 = S.key f ∧ S.read f entry.2 = .ok c

variable {S}

theorem Governs.step_eq_ok (h : S.Governs step) {key : List Char} {value : Value}
    (read : step s key value = .ok t) :
    ∃ f c, key = S.key f ∧ S.read f value = .ok c ∧ t = S.put s f c := by
  by_cases field : ∃ f, key = S.key f
  · obtain ⟨f, rfl⟩ := field
    rw [h.known] at read
    obtain ⟨c, converted, put⟩ := bind_eq_ok_iff.1 read
    exact ⟨f, c, rfl, converted, (Except.ok.inj put).symm⟩
  · rw [h.unknown s key value fun f same => field ⟨f, same⟩] at read
    cases read

theorem foldEntries_cons (key : List Char) (value : Value) (rest : Table) :
    foldEntries step s ((key, value) :: rest) =
      (step s key value).bind fun s => foldEntries step s rest := rfl

theorem Governs.exists_foldEntries (h : S.Governs step) (accepted : ∀ e ∈ entries, S.Accepts e) :
    ∃ t, foldEntries step s entries = .ok t := by
  induction entries generalizing s with
  | nil => exact ⟨s, rfl⟩
  | cons e rest ih =>
    obtain ⟨key, value⟩ := e
    obtain ⟨f, c, rfl, read⟩ := accepted _ List.mem_cons_self
    rw [foldEntries_cons, h.known, show S.read f value = .ok c from read]
    exact ih fun e he => accepted e (List.mem_cons_of_mem _ he)

theorem Governs.accepts_of_foldEntries (h : S.Governs step)
    (read : foldEntries step s entries = .ok t) : ∀ e ∈ entries, S.Accepts e := by
  induction entries generalizing s with
  | nil => exact fun e he => absurd he List.not_mem_nil
  | cons e rest ih =>
    obtain ⟨key, value⟩ := e
    obtain ⟨s', first, others⟩ := bind_eq_ok_iff.1 read
    obtain ⟨f, c, same, converted, -⟩ := h.step_eq_ok first
    exact List.forall_mem_cons.2 ⟨⟨f, c, same, converted⟩, ih others⟩

/-- After the entries each field contains what the last entry of its name says. -/
theorem Governs.get_of_foldEntries (h : S.Governs step)
    (read : foldEntries step s entries = .ok t) (f : S.Field) :
    S.get t f =
      match entries.last? (S.key f) with
      | some value => (S.read f value).toOption
      | none => S.get s f := by
  induction entries generalizing s with
  | nil =>
    cases read
    rfl
  | cons e rest ih =>
    obtain ⟨key, value⟩ := e
    obtain ⟨s', first, others⟩ := bind_eq_ok_iff.1 read
    obtain ⟨g, c, rfl, converted, rfl⟩ := h.step_eq_ok first
    rw [ih others, Table.last?_cons]
    cases Table.last? rest (S.key f) with
    | some later => rfl
    | none =>
      by_cases same : f = g
      · subst same
        simp [S.get_put, converted, Except.toOption]
      · have other : S.key g ≠ S.key f := fun keys => same (S.key_injective keys).symm
        simp [S.get_put_of_ne _ _ _ _ same, other]

theorem Governs.get_eq_some_iff (h : S.Governs step) (read : foldEntries step s entries = .ok t)
    {f : S.Field} (fresh : S.get s f = none) {c : S.Content f} :
    S.get t f = some c ↔
      ∃ value, Table.last? entries (S.key f) = some value ∧ S.read f value = .ok c := by
  rw [h.get_of_foldEntries read]
  cases Table.last? entries (S.key f) with
  | none => simp [fresh]
  | some value => cases converted : S.read f value <;> simp [converted, Except.toOption]

theorem Governs.get_eq_none_iff (h : S.Governs step) (read : foldEntries step s entries = .ok t)
    {f : S.Field} (fresh : S.get s f = none) :
    S.get t f = none ↔ Table.last? entries (S.key f) = none := by
  rw [h.get_of_foldEntries read]
  cases last : Table.last? entries (S.key f) with
  | none => simp [fresh]
  | some value =>
    obtain ⟨g, c, keys, converted⟩ := h.accepts_of_foldEntries read _ (Table.mem_of_last? last)
    obtain rfl := S.key_injective keys
    simp [show S.read f value = .ok c from converted, Except.toOption]

end Schema

/-! ## Rules -/

/-- A field of a rule. -/
inductive RuleField where
  | pattern
  | replacement
  deriving DecidableEq

namespace RuleField

/-- The name of a field of a rule. -/
def name : RuleField → String
  | pattern => "pattern"
  | replacement => "replacement"

/-- The name of a field as it stands in a table. -/
def key (f : RuleField) : List Char := f.name.toList

/-- What a rule has in a field. -/
def value : RuleField → RuleSettings → List Char
  | pattern, r => r.pattern
  | replacement, r => r.replacement

end RuleField

theorem eq_toList_of_ofList {key : List Char} {s : String} (h : String.ofList key = s) :
    key = s.toList := by
  rw [← h, String.toList_ofList]

/-- The fields of a rule. -/
def ruleSchema : Schema RuleSettings.Draft where
  Field := RuleField
  Content _ := List Char
  key := RuleField.key
  read _ := Value.toText
  get
    | d, .pattern => d.pattern
    | d, .replacement => d.replacement
  put
    | d, .pattern, text => { d with pattern := some text }
    | d, .replacement, text => { d with replacement := some text }
  key_injective f g h := by
    cases f <;> cases g <;> first | rfl | exact absurd h (by decide)
  get_put s f c := by cases f <;> rfl
  get_put_of_ne s f c g h := by cases f <;> cases g <;> first | rfl | exact absurd rfl h

theorem ruleSchema_governs : ruleSchema.Governs ruleStep where
  known s f value := by cases f <;> rfl
  unknown s key value other := by
    unfold ruleStep
    split
    · next same => exact absurd (eq_toList_of_ofList same) (other .pattern)
    · next same => exact absurd (eq_toList_of_ofList same) (other .replacement)
    · rfl

/-- What spells a rule: a table of its two fields, the last entry of a name counting, or a list that
begins with what the two contain. -/
def Value.SpellsRule (r : RuleSettings) : Value → Prop
  | .table entries =>
    (∀ entry ∈ entries, ∃ (f : RuleField) (text : List Char),
      entry.1 = f.key ∧ entry.2.toText = .ok text) ∧
    ∀ f : RuleField, ∃ value, Table.last? entries f.key = some value ∧
      value.toText = .ok (f.value r)
  | .list (pattern :: replacement :: _) =>
    pattern.toText = .ok r.pattern ∧ replacement.toText = .ok r.replacement
  | _ => False

theorem toRule_table_eq_ok_iff {entries : Table} {r : RuleSettings} :
    (Value.table entries).toRule = .ok r ↔ (Value.table entries).SpellsRule r := by
  have fresh (f : RuleField) : ruleSchema.get ⟨none, none⟩ f = none := by cases f <;> rfl
  rw [Value.toRule]
  constructor
  · intro read
    obtain ⟨d, drafted, made⟩ := bind_eq_ok_iff.1 read
    refine ⟨ruleSchema_governs.accepts_of_foldEntries drafted, fun f => ?_⟩
    refine (ruleSchema_governs.get_eq_some_iff drafted (fresh f)).1 ?_
    -- A draft that lacks a field makes no rule.
    obtain ⟨_ | pattern, _ | replacement⟩ := d
    case some.some =>
      cases made
      cases f <;> rfl
    all_goals cases made
  · rintro ⟨accepted, fields⟩
    obtain ⟨d, drafted⟩ := ruleSchema_governs.exists_foldEntries (s := ⟨none, none⟩) accepted
    have field (f : RuleField) : ruleSchema.get d f = some (f.value r) :=
      (ruleSchema_governs.get_eq_some_iff drafted (fresh f)).2 (fields f)
    obtain ⟨_, _⟩ := d
    obtain rfl := field .pattern
    obtain rfl := field .replacement
    rw [drafted]
    rfl

theorem toRule_eq_ok_iff {v : Value} {r : RuleSettings} :
    v.toRule = .ok r ↔ v.SpellsRule r := by
  cases v with
  | table entries => exact toRule_table_eq_ok_iff
  | list items =>
    match items with
    | [] => simp [Value.toRule, Value.SpellsRule]
    | [pattern] =>
      cases h : pattern.toText <;> simp [Value.toRule, Value.SpellsRule, h, bind, Except.bind]
    | pattern :: replacement :: rest =>
      obtain ⟨p, q⟩ := r
      cases hp : pattern.toText <;> cases hq : replacement.toText <;>
        simp [Value.toRule, Value.SpellsRule, hp, hq, bind, Except.bind]
  | _ => simp [Value.toRule, Value.SpellsRule]

theorem mapM_toRule_eq_ok_iff {items : List Value} {rules : List RuleSettings} :
    items.mapM Value.toRule = .ok rules ↔
      List.Forall₂ (fun item r => item.SpellsRule r) items rules := by
  induction items generalizing rules with
  | nil => cases rules <;> simp [pure, Except.pure]
  | cons item items ih =>
    have unfolded : (item :: items).mapM Value.toRule =
        item.toRule.bind fun r => (items.mapM Value.toRule).bind fun rest => .ok (r :: rest) :=
      List.mapM_cons
    rw [unfolded]
    constructor
    · intro read
      obtain ⟨r, first, others⟩ := bind_eq_ok_iff.1 read
      obtain ⟨rest, converted, made⟩ := bind_eq_ok_iff.1 others
      cases made
      exact .cons (toRule_eq_ok_iff.1 first) (ih.1 converted)
    · intro spelled
      cases spelled with
      | cons first rest =>
        rw [toRule_eq_ok_iff.2 first, ih.2 rest]
        rfl

/-- A list of rules is spelled by a list of values that each spell one. -/
theorem toRules_eq_ok_iff {v : Value} {rules : List RuleSettings} :
    v.toRules = .ok rules ↔
      ∃ items, v = .list items ∧ List.Forall₂ (fun item r => item.SpellsRule r) items rules := by
  cases v with
  | list items => simp [Value.toRules, mapM_toRule_eq_ok_iff]
  | _ => simp [Value.toRules]

/-! ## Settings -/

/-- A field of settings: the parameter, the rules, or whether a kind of segments is looked for. -/
inductive Field where
  | parameter
  | rules
  | kind (k : Path.Kind)
  deriving DecidableEq

namespace Field

/-- The name of a field of settings. -/
def name : Field → String
  | parameter => "query_param_name"
  | rules => "rewrite_rules"
  | kind .hash => "sanitize_hashes"
  | kind .number => "sanitize_numbers"
  | kind .uuid => "sanitize_uuids"
  | kind .ip => "sanitize_ips"
  | kind .image => "sanitize_images"
  | kind .font => "sanitize_fonts"

/-- The name of a field as it stands in a table. -/
def key (f : Field) : List Char := f.name.toList

/-- What a field contains. -/
def Content : Field → Type
  | parameter => List Char
  | rules => List RuleSettings
  | kind _ => Bool

/-- The content of a field as a value is converted into it. -/
def read : (f : Field) → Value → Except Failure f.Content
  | parameter => Value.toText
  | rules => Value.toRules
  | kind _ => Value.toBool

/-- What settings have in a field. -/
def value : (f : Field) → Settings → f.Content
  | parameter, s => s.parameter
  | rules, s => s.rules
  | kind .hash, s => s.hashes
  | kind .number, s => s.numbers
  | kind .uuid, s => s.uuids
  | kind .ip, s => s.ips
  | kind .image, s => s.images
  | kind .font, s => s.fonts

/-- What a draft of settings has in a field. -/
def drafted : (d : Settings.Draft) → (f : Field) → Option f.Content
  | d, parameter => d.parameter
  | d, rules => d.rules
  | d, kind .hash => d.hashes
  | d, kind .number => d.numbers
  | d, kind .uuid => d.uuids
  | d, kind .ip => d.ips
  | d, kind .image => d.images
  | d, kind .font => d.fonts

/-- A draft with a field set. -/
def put : Settings.Draft → (f : Field) → f.Content → Settings.Draft
  | d, parameter, c => { d with parameter := some c }
  | d, rules, c => { d with rules := some c }
  | d, kind .hash, c => { d with hashes := some c }
  | d, kind .number, c => { d with numbers := some c }
  | d, kind .uuid, c => { d with uuids := some c }
  | d, kind .ip, c => { d with ips := some c }
  | d, kind .image, c => { d with images := some c }
  | d, kind .font, c => { d with fonts := some c }

theorem key_injective : Function.Injective key := by
  intro f g h
  have names : f.name = g.name := String.toList_inj.1 h
  cases f with
  | parameter => cases g with
    | parameter => rfl
    | rules => exact absurd names (by decide)
    | kind k => cases k <;> exact absurd names (by decide)
  | rules => cases g with
    | parameter => exact absurd names (by decide)
    | rules => rfl
    | kind k => cases k <;> exact absurd names (by decide)
  | kind j => cases g with
    | parameter => cases j <;> exact absurd names (by decide)
    | rules => cases j <;> exact absurd names (by decide)
    | kind k => cases j <;> cases k <;> first | rfl | exact absurd names (by decide)

theorem value_settings (f : Field) (d : Settings.Draft) :
    f.value d.settings = (drafted d f).getD (f.value .defaults) := by
  cases f with
  | kind k => cases k <;> rfl
  | _ => rfl

/-- Settings with the same content in every field are the same. -/
theorem ext_value {s t : Settings} (h : ∀ f : Field, f.value s = f.value t) : s = t := by
  obtain ⟨parameter, rules, hashes, numbers, uuids, ips, images, fonts⟩ := s
  obtain rfl := h .parameter
  obtain rfl := h .rules
  obtain rfl := h (.kind .hash)
  obtain rfl := h (.kind .number)
  obtain rfl := h (.kind .uuid)
  obtain rfl := h (.kind .ip)
  obtain rfl := h (.kind .image)
  obtain rfl := h (.kind .font)
  rfl

/-- The values that mean a content of a field: for the rules a list of what spells each of them, for
the parameter what is converted into its text, and for the kinds what is converted into a truth
value. -/
def Means : (f : Field) → Value → f.Content → Prop
  | parameter, v, text => v.toText = .ok text
  | rules, v, rs =>
    ∃ items, v = .list items ∧ List.Forall₂ (fun item r => item.SpellsRule r) items rs
  | kind _, v, b => v.toBool = .ok b

theorem read_eq_ok_iff {f : Field} {v : Value} {c : f.Content} :
    f.read v = .ok c ↔ f.Means v c := by
  cases f with
  | rules => exact toRules_eq_ok_iff
  | _ => exact Iff.rfl

end Field

/-- The fields of settings. -/
def settingsSchema : Schema Settings.Draft where
  Field := Field
  Content := Field.Content
  key := Field.key
  read := Field.read
  get := Field.drafted
  put := Field.put
  key_injective := Field.key_injective
  get_put d f c := by
    cases f with
    | kind k => cases k <;> rfl
    | _ => rfl
  get_put_of_ne d f c g other := by
    cases f with
    | kind j => cases g with
      | kind k => cases j <;> cases k <;> first | rfl | exact absurd rfl other
      | _ => cases j <;> rfl
    | _ => cases g with
      | kind k => cases k <;> rfl
      | _ => first | rfl | exact absurd rfl other

theorem settingsSchema_governs : settingsSchema.Governs settingsStep where
  known d f value := by
    cases f with
    | kind k => cases k <;> rfl
    | _ => rfl
  unknown d key value other := by
    unfold settingsStep
    split
    · next same => exact absurd (eq_toList_of_ofList same) (other .parameter)
    · next same => exact absurd (eq_toList_of_ofList same) (other .rules)
    · next same => exact absurd (eq_toList_of_ofList same) (other (.kind .hash))
    · next same => exact absurd (eq_toList_of_ofList same) (other (.kind .number))
    · next same => exact absurd (eq_toList_of_ofList same) (other (.kind .uuid))
    · next same => exact absurd (eq_toList_of_ofList same) (other (.kind .ip))
    · next same => exact absurd (eq_toList_of_ofList same) (other (.kind .image))
    · next same => exact absurd (eq_toList_of_ofList same) (other (.kind .font))
    · rfl

/-- The settings of a table: all its entries are those of fields and can be converted, each field is
converted from the last entry of its name, and a field without one has its default. -/
theorem toSettings_eq_ok_iff {v : Value} {s : Settings} :
    v.toSettings = .ok s ↔
      (∀ entry ∈ v.entries, settingsSchema.Accepts entry) ∧
      ∀ f : Field, match Table.last? v.entries f.key with
        | some value => f.read value = .ok (f.value s)
        | none => f.value s = f.value .defaults := by
  have unfolded : v.toSettings =
      (foldEntries settingsStep Settings.Draft.empty v.entries).bind fun d => .ok d.settings := rfl
  have fresh (f : Field) : settingsSchema.get .empty f = none := by
    cases f with
    | kind k => cases k <;> rfl
    | _ => rfl
  -- What a finished draft says about the entries.
  have finished {d : Settings.Draft}
      (drafted : foldEntries settingsStep .empty v.entries = .ok d) (f : Field) :
      match Table.last? v.entries f.key with
        | some value => f.read value = .ok (f.value d.settings)
        | none => f.value d.settings = f.value .defaults := by
    have content (c : f.Content) :=
      settingsSchema_governs.get_eq_some_iff drafted (fresh f) (c := c)
    have absent := settingsSchema_governs.get_eq_none_iff drafted (fresh f)
    rw [Field.value_settings]
    cases found : Field.drafted d f with
    | none =>
      rw [show Table.last? v.entries f.key = none from absent.1 found]
      rfl
    | some c =>
      obtain ⟨value, last, converted⟩ := (content c).1 found
      rw [show Table.last? v.entries f.key = some value from last]
      exact converted
  rw [unfolded]
  constructor
  · intro read
    obtain ⟨d, drafted, made⟩ := bind_eq_ok_iff.1 read
    cases made
    exact ⟨settingsSchema_governs.accepts_of_foldEntries drafted, finished drafted⟩
  · rintro ⟨accepted, fields⟩
    obtain ⟨d, drafted⟩ := settingsSchema_governs.exists_foldEntries (s := .empty) accepted
    rw [drafted]
    refine congrArg Except.ok (Field.ext_value fun f => ?_)
    have mine := fields f
    have its := finished drafted f
    cases last : Table.last? v.entries f.key with
    | none =>
      rw [last] at mine its
      exact its.trans mine.symm
    | some value =>
      rw [last] at mine its
      exact Except.ok.inj (its.symm.trans mine)

end Config

end RequestKeys
