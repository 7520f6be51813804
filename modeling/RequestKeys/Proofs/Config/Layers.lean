import RequestKeys.Proofs.Config.Assignment
import RequestKeys.Proofs.Config.Field

/-!
# Layers of settings

Each field of the settings is taken from the highest layer that sets it: a variable of the
environment, a key of the file, or the defaults (`load_eq_ok_iff`).  The layers make one table, in
which the value of a field comes from the assignments that lead into it alone; a variable replaces
what is there, so that the file has no say about a field that a variable sets.
-/

namespace RequestKeys.Config

/-! ## Layers that name fields -/

theorem Field.isPathChar_of_mem_key (f : Field) : ∀ c ∈ f.key, isPathChar c = true := by
  refine List.all_eq_true.1 ?_
  cases f with
  | kind k => cases k <;> decide
  | _ => decide

theorem Field.entryOf_key (f : Field) : entryOf f.key = f.key :=
  entryOf_of_isPathChar f.isPathChar_of_mem_key

theorem Field.wayBelow_key (f : Field) : wayBelow f.key = [] :=
  wayBelow_of_isPathChar f.isPathChar_of_mem_key

/-- A layer that sets fields as a whole, each at most once, and none to a table. -/
structure OfFields (layer : Table) : Prop where
  known : ∀ a ∈ layer, ∃ f : Field, a.1 = f.key
  once : (layer.map (·.1)).Nodup
  flat : ∀ a ∈ layer, ∀ entries, a.2 ≠ .table entries

section OfFields

variable {layer : Table} {f : Field}

theorem OfFields.tail {a : List Char × Value} (h : OfFields (a :: layer)) : OfFields layer where
  known b hb := h.known b (List.mem_cons_of_mem _ hb)
  once := (List.nodup_cons.1 h.once).2
  flat b hb := h.flat b (List.mem_cons_of_mem _ hb)

theorem OfFields.sets_iff (h : OfFields layer) :
    Sets layer f.key ↔ (Table.get? layer f.key).isSome = true := by
  have keys : ∀ a ∈ layer, (entryOf a.1 = f.key ↔ a.1 = f.key) := fun a ha => by
    obtain ⟨g, key⟩ := h.known a ha
    rw [key, g.entryOf_key]
  rw [Table.get?, Option.isSome_map, List.find?_isSome]
  constructor
  · rintro ⟨a, ha, leads⟩
    exact ⟨a, ha, decide_eq_true ((keys a ha).1 leads)⟩
  · rintro ⟨a, ha, same⟩
    exact ⟨a, ha, (keys a ha).2 (of_decide_eq_true same)⟩

/-- Such a layer replaces the values of the fields that it sets. -/
theorem OfFields.settle_eq (h : OfFields layer) (old : Value) :
    settle f.key old layer = (Table.get? layer f.key).getD old := by
  induction layer generalizing old with
  | nil => rfl
  | cons a layer ih =>
    obtain ⟨key, value⟩ := a
    obtain ⟨g, rfl⟩ := h.known _ List.mem_cons_self
    by_cases here : g.key = f.key
    · have flat := h.flat _ List.mem_cons_self
      -- Nothing after it leads into the field, which is set only once.
      have later : ¬ Sets layer f.key := by
        rintro ⟨b, hb, leads⟩
        obtain ⟨k, bkey⟩ := h.tail.known b hb
        rw [bkey, k.entryOf_key] at leads
        refine (List.nodup_cons.1 h.once).1 (List.mem_map.2 ⟨b, hb, ?_⟩)
        rw [bkey, leads, here]
      rw [settle_cons_of_eq (g.entryOf_key.trans here), settle_of_not_sets later, g.wayBelow_key,
        setAt, merge_of_not_table flat]
      simp [Table.get?, here]
    · rw [settle_cons_of_ne (g.entryOf_key.trans_ne here), ih h.tail]
      simp [Table.get?, here]

end OfFields

theorem ofFields_defaultLayer : OfFields defaultLayer where
  known := by
    simp only [defaultLayer, List.forall_mem_cons]
    exact ⟨⟨.parameter, rfl⟩, ⟨.kind .hash, rfl⟩, ⟨.kind .number, rfl⟩, ⟨.kind .uuid, rfl⟩,
      ⟨.kind .ip, rfl⟩, ⟨.kind .image, rfl⟩, ⟨.kind .font, rfl⟩, nofun⟩
  once := by decide
  flat := by simp [defaultLayer]

/-- What the default layer says about a field is its default. -/
theorem read_of_get?_defaultLayer {f : Field} {v : Value}
    (h : Table.get? defaultLayer f.key = some v) : f.read v = .ok (f.value .defaults) := by
  cases f with
  | parameter => cases h; rfl
  | rules => cases h
  | kind k => cases k <;> cases h <;> rfl

theorem plain_settle_defaultLayer (f : Field) : (settle f.key .nil defaultLayer).Plain := by
  rw [ofFields_defaultLayer.settle_eq]
  cases f with
  | kind k => cases k <;> exact ⟨rfl, rfl⟩
  | _ => exact ⟨rfl, rfl⟩

/-! ## The environment -/

/-- The variables of the program are named for fields, in any case, and none for the same field as
another. -/
structure Environment.SetsFields (e : Environment) : Prop where
  known : ∀ a ∈ e.layer, ∃ f : Field, a.1 = f.key
  once : (e.layer.map (·.1)).Nodup

theorem ofVariable_ne_table (text : List Char) (entries : Table) :
    Value.ofVariable text ≠ .table entries := by
  unfold Value.ofVariable
  split
  · nofun
  · nofun
  · split
    · nofun
    · split <;> nofun

theorem Environment.SetsFields.ofFields {e : Environment} (h : e.SetsFields) : OfFields e.layer where
  known := h.known
  once := h.once
  flat a ha entries := by
    obtain ⟨v, -, set⟩ := List.mem_filterMap.1 ha
    obtain ⟨key, -, rfl⟩ := Option.map_eq_some_iff.1 set
    exact ofVariable_ne_table v.2 entries

/-! ## The value that is chosen for a field -/

/-- What a file says about a field, if any of its keys leads into it. -/
def fileValue? (t : Table) (f : Field) : Option Value :=
  if Sets t f.key then some (settle f.key .nil t) else none

/-- What is said about a field in the highest layer above the defaults that says something about
it. -/
def chosen? (t : Table) (e : Environment) (f : Field) : Option Value :=
  (Table.get? e.layer f.key).or (fileValue? t f)

/-- A content is what the value chosen for a field means, or else its default. -/
def Field.Agrees (f : Field) (chosen : Option Value) (c : f.Content) : Prop :=
  match chosen with
  | some v => f.Means v c
  | none => c = f.value .defaults

/-- All layers, the lowest first. -/
def layers (t : Table) (e : Environment) : Table := defaultLayer ++ t ++ e.layer

section Chosen

variable {t u : Table} {e : Environment} {f : Field} {v : Value}

/-- What a layer of fields says about a field is the value of its name. -/
theorem OfFields.get?_eq (h : OfFields t) (f : Field) :
    Table.get? t f.key = fileValue? t f := by
  unfold fileValue?
  cases found : Table.get? t f.key with
  | none => rw [if_neg (by simp [h.sets_iff, found])]
  | some v => rw [if_pos (by simp [h.sets_iff, found]), h.settle_eq, found, Option.getD_some]

theorem ofLayers_eq_toSettings (t : Table) (e : Environment) :
    ofLayers (some t) e = (apply (.table []) (layers t e)).toSettings := by
  rw [layers, apply_append, apply_append]
  rfl

theorem settle_layers (h : e.SetsFields) (f : Field) :
    settle f.key .nil (layers t e) =
      (Table.get? e.layer f.key).getD (settle f.key (settle f.key .nil defaultLayer) t) := by
  rw [layers, settle_append, settle_append, h.ofFields.settle_eq]

theorem settle_layers_of_chosen (h : e.SetsFields) (chosen : chosen? t e f = some v) :
    Sets (layers t e) f.key ∧ settle f.key .nil (layers t e) = v := by
  rw [settle_layers h, layers, sets_append, sets_append, h.ofFields.sets_iff]
  rw [chosen?] at chosen
  cases variable_eq : Table.get? e.layer f.key with
  | some w =>
    rw [variable_eq] at chosen
    exact ⟨.inr rfl, Option.some.inj chosen⟩
  | none =>
    rw [variable_eq, Option.none_or, fileValue?] at chosen
    split_ifs at chosen with set
    refine ⟨.inl (.inr set), ?_⟩
    rw [Option.getD_none, settle_of_plain (plain_settle_defaultLayer f) set]
    exact Option.some.inj chosen

theorem settle_layers_of_not_chosen (h : e.SetsFields) (chosen : chosen? t e f = none) :
    (Sets (layers t e) f.key ↔ (Table.get? defaultLayer f.key).isSome = true) ∧
      settle f.key .nil (layers t e) = (Table.get? defaultLayer f.key).getD .nil := by
  rw [settle_layers h, layers, sets_append, sets_append, h.ofFields.sets_iff,
    ofFields_defaultLayer.sets_iff, ofFields_defaultLayer.settle_eq]
  obtain ⟨no_variable, no_key⟩ := Option.or_eq_none_iff.1 chosen
  rw [fileValue?] at no_key
  split_ifs at no_key with set
  rw [no_variable, Option.getD_none, settle_of_not_sets set]
  simp [set]

theorem last?_entries_apply (layer : Table) (name : List Char) :
    Table.last? (apply (.table []) layer).entries name =
      if Sets layer name then some (settle name .nil layer) else none := by
  rw [apply_eq, Value.entries, Table.last?, ← List.map_reverse, get?_map]
  simp only [List.mem_reverse, mem_entriesOf]

/-- The entry of a field in the table of all layers, if there is one, says the same about its content
as the value that is chosen for it. -/
theorem agrees_iff (h : e.SetsFields) {c : f.Content} :
    (match Table.last? (apply (.table []) (layers t e)).entries f.key with
        | some value => f.read value = .ok c
        | none => c = f.value .defaults) ↔ f.Agrees (chosen? t e f) c := by
  rw [last?_entries_apply]
  cases chosen : chosen? t e f with
  | some v =>
    obtain ⟨set, value⟩ := settle_layers_of_chosen h chosen
    rw [if_pos set, value]
    exact Field.read_eq_ok_iff
  | none =>
    obtain ⟨set_iff, value⟩ := settle_layers_of_not_chosen h chosen
    rw [value]
    cases default : Table.get? defaultLayer f.key with
    | none =>
      rw [default] at set_iff
      rw [if_neg (by simp [set_iff])]
      rfl
    | some w =>
      rw [default] at set_iff
      rw [if_pos (by simp [set_iff])]
      show f.read w = .ok c ↔ c = f.value .defaults
      rw [read_of_get?_defaultLayer default, Except.ok.injEq, eq_comm]

theorem exists_key_of_sets (h : e.SetsFields)
    (known : ∀ a ∈ t, ∃ f : Field, entryOf a.1 = f.key) {name : List Char}
    (set : Sets (layers t e) name) : ∃ f : Field, name = f.key := by
  obtain ⟨a, ha, rfl⟩ := set
  rw [layers, List.mem_append, List.mem_append] at ha
  rcases ha with (in_defaults | in_file) | in_environment
  · obtain ⟨f, key⟩ := ofFields_defaultLayer.known a in_defaults
    exact ⟨f, by rw [key, f.entryOf_key]⟩
  · exact known a in_file
  · obtain ⟨f, key⟩ := h.known a in_environment
    exact ⟨f, by rw [key, f.entryOf_key]⟩

theorem ofLayers_eq_ok_iff (h : e.SetsFields) {s : Settings} :
    ofLayers (some t) e = .ok s ↔
      (∀ a ∈ t, ∃ f : Field, entryOf a.1 = f.key) ∧
      ∀ f : Field, f.Agrees (chosen? t e f) (f.value s) := by
  rw [ofLayers_eq_toSettings, toSettings_eq_ok_iff]
  constructor
  · rintro ⟨accepted, fields⟩
    refine ⟨fun a ha => ?_, fun f => (agrees_iff h).1 (fields f)⟩
    have set : Sets (layers t e) (entryOf a.1) := ⟨a, by simp [layers, ha], rfl⟩
    have entry := mem_entries_apply.2 ⟨set, Eq.refl (settle (entryOf a.1) .nil (layers t e))⟩
    obtain ⟨f, -, key, -⟩ := accepted _ entry
    exact ⟨f, key⟩
  · rintro ⟨known, agree⟩
    have fields := fun f => (agrees_iff h).2 (agree f)
    refine ⟨fun ⟨name, value⟩ found => ?_, fields⟩
    obtain ⟨set, settled⟩ := mem_entries_apply.1 found
    obtain ⟨f, key⟩ := exists_key_of_sets h known set
    have content := fields f
    rw [last?_entries_apply, ← key, if_pos set, ← settled] at content
    exact ⟨f, f.value s, key, content⟩

end Chosen

/-! ## The main statement -/

variable {further : Formats}

/-- The table of a file, which is empty if no file is given. -/
def Formats.fileTable (further : Formats) : Option File → Except Failure Table
  | .none => .ok []
  | some file => further.layer file

theorem load_eq_ofLayers {file : Option File} {t : Table} (h : further.fileTable file = .ok t)
    (e : Environment) : further.load file e = ofLayers (some t) e := by
  cases file with
  | none =>
    cases h
    simp only [Formats.load, ofLayers, apply, List.foldl_nil]
  | some file =>
    have read : further.layer file = .ok t := h
    rw [Formats.load, read]
    rfl

end RequestKeys.Config
