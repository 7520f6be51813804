import Mathlib.Data.List.Nodup
import RequestKeys.Proofs.Config.Field

/-!
# Members that are decoded strictly

JSON objects are decoded member by member: a member whose name is that of a field sets this field,
which must not have been set before, and any other member is refused.  So what is decoded is an object
without defects whose names are distinct, and if the contents of its fields are also converted from
configuration values, reading these values entry by entry makes the same draft
(`Schema.Decodes.entries_of_foldMembers`).  This carries rules and settings from one reader to the
other (`toSettings_of_ofNode`).
-/

namespace RequestKeys

/-! ## Nodes and values -/

namespace Json

variable {node : Node} {text : List Char} {b : Bool}

theorem Node.text_eq_ok_iff : node.text = .ok text ↔ node = .string (some text) := by
  cases node with
  | string found => cases found <;> simp [Node.text]
  | _ => simp [Node.text]

theorem Node.flag_eq_ok_iff : node.flag = .ok b ↔ node = .bool b := by
  cases node <;> simp [Node.flag]

theorem Ending.read_eq_ok_iff {ending : Ending} : ending.read = .ok () ↔ ending = .closed := by
  cases ending <;> simp [Ending.read]

theorem readEnd_eq_ok_iff {items : List Node} {ending : Ending} :
    readEnd items ending = .ok () ↔ items = [] ∧ ending = .closed := by
  cases items with
  | nil => rcases ending with _ | ⟨_ | _⟩ <;> simp [readEnd]
  | cons item items => simp [readEnd]

/-- An element that has no default has to be there. -/
theorem nextItem_eq_ok_iff {α : Type} {expected : String} {index : Nat}
    {read : Node → Except Fault α} {ending : Ending} {items rest : List Node} {a : α} :
    nextItem expected index none read ending items = .ok (a, rest) ↔
      ∃ item, items = item :: rest ∧ read item = .ok a := by
  cases items with
  | nil => cases ending <;> simp [nextItem, Ending.read, bind, Except.bind]
  | cons item items => simp [nextItem, bind_eq_ok_iff, and_comm]

/-- A member of a new name comes at the end. -/
theorem putMember_of_not_mem {α : Type} {name : List Char} {value : α}
    {members : List (List Char × α)} (h : name ∉ members.map (·.1)) :
    putMember name value members = members ++ [(name, value)] := by
  induction members with
  | nil => rfl
  | cons m members ih =>
    rw [List.map_cons, List.mem_cons, not_or] at h
    rw [putMember, if_neg (Ne.symm h.1), ih h.2, List.cons_append]

end Json

namespace Config

open Json (Node Fault Ending foldMembers)

/-! ## Records -/

namespace Schema

variable {σ : Type} (S : Schema σ) {strict : σ → List Char → Node → Except Fault σ}
  {lenient : σ → List Char → Value → Except Failure σ} {fieldName : S.Field → String}
  {decode : (f : S.Field) → Node → Except Fault (S.Content f)} {s t : σ} {f : S.Field}
  {name : List Char} {node : Node} {ending : Ending} {members : List (Option (List Char) × Node)}

/-- Members are decoded by the schema: those of fields set their field, unless it has been set, and
others are refused. -/
structure Decodes (fieldName : S.Field → String)
    (decode : (f : S.Field) → Node → Except Fault (S.Content f))
    (strict : σ → List Char → Node → Except Fault σ) : Prop where
  known : ∀ s f node, ∃ set : Option (S.Content f) → σ, (∀ c, set (some c) = S.put s f c) ∧
    strict s (S.key f) node =
      (Json.readField (fieldName f) (S.get s f) (decode f node)).bind fun c => .ok (set c)
  unknown : ∀ s name node, (∀ f, name ≠ S.key f) → ∃ fault, strict s name node = .error fault

/-- What is decoded as the content of a field is a value, up to `depth` deep, that is converted into
the same content. -/
def Converts (decode : (f : S.Field) → Node → Except Fault (S.Content f)) (depth : Nat) : Prop :=
  ∀ f node c, decode f node = .ok c →
    ∃ v, node.value? depth = some v ∧ S.read f (Value.ofJson v) = .ok c

variable {S}

theorem foldMembers_cons :
    foldMembers strict ending s ((some name, node) :: members) =
      (strict s name node).bind fun s => foldMembers strict ending s members := rfl

theorem Decodes.step_of_unset (D : S.Decodes fieldName decode strict) (unset : S.get s f = none)
    (node : Node) :
    strict s (S.key f) node = (decode f node).bind fun c => .ok (S.put s f c) := by
  obtain ⟨set, put, step⟩ := D.known s f node
  rw [step, unset, Json.readField]
  cases decode f node with
  | error fault => rfl
  | ok c => exact congrArg Except.ok (put c)

theorem Decodes.step_of_set (D : S.Decodes fieldName decode strict) (set : S.get s f ≠ none)
    (node : Node) :
    strict s (S.key f) node = .error (.data (.duplicateField (fieldName f))) := by
  obtain ⟨c, before⟩ := Option.ne_none_iff_exists'.1 set
  obtain ⟨_, -, step⟩ := D.known s f node
  rw [step, before]
  rfl

theorem Decodes.step_eq_ok (D : S.Decodes fieldName decode strict) (h : strict s name node = .ok t) :
    ∃ f c, name = S.key f ∧ S.get s f = none ∧ decode f node = .ok c ∧ t = S.put s f c := by
  by_cases field : ∃ f, name = S.key f
  · obtain ⟨f, rfl⟩ := field
    by_cases unset : S.get s f = none
    · rw [D.step_of_unset unset] at h
      obtain ⟨c, decoded, put⟩ := bind_eq_ok_iff.1 h
      exact ⟨f, c, rfl, unset, decoded, (Except.ok.inj put).symm⟩
    · rw [D.step_of_set unset] at h
      cases h
  · obtain ⟨fault, refused⟩ := D.unknown s name node fun f same => field ⟨f, same⟩
    rw [refused] at h
    cases h

/-- The members read so far have distinct names, each that of a field that is set. -/
structure Recorded (S : Schema σ) (s : σ) (read : List (List Char × Json.Value)) : Prop where
  set : ∀ m ∈ read, ∃ f, m.1 = S.key f ∧ S.get s f ≠ none
  once : (read.map (·.1)).Nodup

theorem Recorded.nil (s : σ) : S.Recorded s [] := ⟨nofun, List.nodup_nil⟩

theorem Recorded.not_mem {read : List (List Char × Json.Value)} (h : S.Recorded s read)
    {f : S.Field} (unset : S.get s f = none) : S.key f ∉ read.map (·.1) := by
  intro found
  obtain ⟨m, hm, same⟩ := List.mem_map.1 found
  obtain ⟨g, key, set⟩ := h.set m hm
  obtain rfl : g = f := S.key_injective (key.symm.trans same)
  exact set unset

theorem Recorded.concat {read : List (List Char × Json.Value)} (h : S.Recorded s read)
    {f : S.Field} (unset : S.get s f = none) (c : S.Content f) (v : Json.Value) :
    S.Recorded (S.put s f c) (read ++ [(S.key f, v)]) where
  set m hm := by
    rcases List.mem_append.1 hm with before | last
    · obtain ⟨g, key, set⟩ := h.set m before
      refine ⟨g, key, ?_⟩
      by_cases same : g = f
      · subst same
        exact absurd unset set
      · rwa [S.get_put_of_ne _ _ _ _ same]
    · rw [List.mem_singleton.1 last]
      exact ⟨f, rfl, by rw [S.get_put]; exact Option.some_ne_none c⟩
  once := by
    rw [List.map_append, List.map_singleton]
    refine List.nodup_append.2 ⟨h.once, List.nodup_singleton _, ?_⟩
    rintro x hx y hy rfl
    obtain rfl : x = S.key f := List.mem_singleton.1 hy
    exact h.not_mem unset hx

/-- What is decoded from members is read from the entries that they are, too. -/
theorem Decodes.entries_of_foldMembers (D : S.Decodes fieldName decode strict)
    (G : S.Governs lenient) {depth : Nat} (converts : S.Converts decode depth)
    {read : List (List Char × Json.Value)} (recorded : S.Recorded s read)
    (h : foldMembers strict ending s members = .ok t) :
    ending = .closed ∧ ∃ new, Json.memberValues? depth read members = some (read ++ new) ∧
      ((read ++ new).map (·.1)).Nodup ∧ foldEntries lenient s (entriesOfJson new) = .ok t := by
  -- Each member that is read sets its field, so the name of the next one is new and its value comes
  -- at the end: no member is lost among the values.
  induction members generalizing s read with
  | nil =>
    obtain ⟨_, closing, made⟩ := bind_eq_ok_iff.1 h
    cases made
    exact ⟨Json.Ending.read_eq_ok_iff.1 closing, [], by simp [Json.memberValues?],
      by simpa using recorded.once, rfl⟩
  | cons m members ih =>
    obtain ⟨_ | name, node⟩ := m
    · cases h
    · obtain ⟨s', first, others⟩ := bind_eq_ok_iff.1 h
      obtain ⟨f, c, rfl, unset, decoded, rfl⟩ := D.step_eq_ok first
      obtain ⟨v, value, converted⟩ := converts f node c decoded
      obtain ⟨closed, new, values, once, entries⟩ := ih (recorded.concat unset c v) others
      refine ⟨closed, (S.key f, v) :: new, ?_, ?_, ?_⟩
      · rw [Json.memberValues?]
        simp only [value, Option.bind_eq_bind, Option.bind_some,
          Json.putMember_of_not_mem (recorded.not_mem unset), values, List.append_assoc,
          List.singleton_append]
      · simpa using once
      · rw [entriesOfJson, foldEntries_cons, G.known, converted]
        exact entries

/-- Fields that have not been set are set by members that spell their contents, in any order. -/
theorem Decodes.exists_foldMembers (D : S.Decodes fieldName decode strict) {nodes : S.Field → Node}
    {content : (f : S.Field) → S.Content f} {fs : List S.Field} (once : fs.Nodup)
    (unset : ∀ f ∈ fs, S.get s f = none) (decoded : ∀ f ∈ fs, decode f (nodes f) = .ok (content f)) :
    ∃ t, foldMembers strict .closed s (fs.map fun f => (some (S.key f), nodes f)) = .ok t ∧
      (∀ f ∈ fs, S.get t f = some (content f)) ∧ ∀ f, f ∉ fs → S.get t f = S.get s f := by
  induction fs generalizing s with
  | nil => exact ⟨s, rfl, nofun, fun _ _ => rfl⟩
  | cons f fs ih =>
    rw [List.nodup_cons] at once
    rw [List.forall_mem_cons] at unset decoded
    have others : ∀ g ∈ fs, S.get (S.put s f (content f)) g = none := fun g hg => by
      have other : g ≠ f := fun same => once.1 (same ▸ hg)
      rw [S.get_put_of_ne _ _ _ _ other, unset.2 g hg]
    obtain ⟨t, read, inside, outside⟩ := ih once.2 others decoded.2
    refine ⟨t, ?_, List.forall_mem_cons.2 ⟨?_, inside⟩, fun g hg => ?_⟩
    · rw [List.map_cons, foldMembers_cons, D.step_of_unset unset.1, decoded.1]
      exact read
    · rw [outside f once.1, S.get_put]
    · rw [List.mem_cons, not_or] at hg
      rw [outside g hg.2, S.get_put_of_ne _ _ _ _ hg.1]

end Schema

/-! ## Rules -/

theorem ruleSchema_decodes :
    ruleSchema.Decodes RuleField.name (fun _ => Node.text) RuleSettings.Draft.step where
  known d f node := by
    cases f with
    | pattern => exact ⟨fun c => { d with pattern := c }, fun _ => rfl, rfl⟩
    | replacement => exact ⟨fun c => { d with replacement := c }, fun _ => rfl, rfl⟩
  unknown d name node other := by
    unfold RuleSettings.Draft.step
    split
    · next same => exact absurd (eq_toList_of_ofList same) (other .pattern)
    · next same => exact absurd (eq_toList_of_ofList same) (other .replacement)
    · exact ⟨_, rfl⟩

theorem ruleSchema_converts (depth : Nat) : ruleSchema.Converts (fun _ => Node.text) depth := by
  intro f node text decoded
  rw [Json.Node.text_eq_ok_iff.1 decoded]
  exact ⟨.string text, by rw [Node.value?]; rfl, rfl⟩

/-- A rule that is decoded is converted from a value. -/
theorem toRule_of_ofNode {node : Node} {r : RuleSettings} (depth : Nat)
    (h : RuleSettings.ofNode node = .ok r) :
    ∃ v, node.value? (depth + 1) = some v ∧ (Value.ofJson v).toRule = .ok r := by
  unfold RuleSettings.ofNode at h
  split at h
  · next members ending =>
    obtain ⟨d, drafted, made⟩ := bind_eq_ok_iff.1 h
    obtain ⟨rfl, new, values, -, entries⟩ := ruleSchema_decodes.entries_of_foldMembers
      ruleSchema_governs (ruleSchema_converts depth) (.nil _) drafted
    refine ⟨.object new, by rw [Node.value?]; simp [values], ?_⟩
    -- A draft that lacks a field makes no rule.
    obtain ⟨_ | pattern, _ | replacement⟩ := d
    case some.some =>
      cases made
      rw [Value.ofJson, Value.toRule, entries]
      rfl
    all_goals cases made
  · next items ending =>
    obtain ⟨⟨pattern, items₁⟩, first, others⟩ := bind_eq_ok_iff.1 h
    obtain ⟨⟨replacement, items₂⟩, second, others⟩ := bind_eq_ok_iff.1 others
    obtain ⟨_, atEnd, made⟩ := bind_eq_ok_iff.1 others
    obtain ⟨node₁, rfl, decoded₁⟩ := Json.nextItem_eq_ok_iff.1 first
    obtain ⟨node₂, rfl, decoded₂⟩ := Json.nextItem_eq_ok_iff.1 second
    obtain ⟨rfl, rfl⟩ := Json.readEnd_eq_ok_iff.1 atEnd
    cases made
    rw [Json.Node.text_eq_ok_iff.1 decoded₁, Json.Node.text_eq_ok_iff.1 decoded₂]
    refine ⟨.array [.string pattern, .string replacement], ?_, rfl⟩
    simp [Node.value?, Json.itemValues?]
  · cases h

theorem mapM_toRule_of_ofNodes {items : List Node} {rules : List RuleSettings} (depth : Nat)
    (h : RuleSettings.ofNodes ending items = .ok rules) :
    ending = .closed ∧ ∃ vs, Json.itemValues? (depth + 1) items = some vs ∧
      (valuesOfJson vs).mapM Value.toRule = .ok rules := by
  induction items generalizing rules with
  | nil =>
    obtain ⟨_, closing, made⟩ := bind_eq_ok_iff.1 h
    cases made
    exact ⟨Json.Ending.read_eq_ok_iff.1 closing, [], by rw [Json.itemValues?], rfl⟩
  | cons item items ih =>
    obtain ⟨r, first, others⟩ := bind_eq_ok_iff.1 h
    obtain ⟨rest, decoded, made⟩ := bind_eq_ok_iff.1 others
    cases made
    obtain ⟨v, value, converted⟩ := toRule_of_ofNode depth first
    obtain ⟨closed, vs, values, allConverted⟩ := ih decoded
    refine ⟨closed, v :: vs, ?_, ?_⟩
    · rw [Json.itemValues?, value, values]
      rfl
    · rw [valuesOfJson, List.mapM_cons, converted, allConverted]
      rfl

/-- Rules that are decoded are converted from a value. -/
theorem toRules_of_listOfNode {rules : List RuleSettings} (depth : Nat)
    (h : RuleSettings.listOfNode node = .ok rules) :
    ∃ v, node.value? (depth + 2) = some v ∧ (Value.ofJson v).toRules = .ok rules := by
  unfold RuleSettings.listOfNode at h
  split at h
  · next items ending =>
    obtain ⟨rfl, vs, values, converted⟩ := mapM_toRule_of_ofNodes depth h
    exact ⟨.array vs, by rw [Node.value?]; simp [values], converted⟩
  · cases h

/-! ## Settings -/

/-- The content of a field as a node is decoded into it. -/
def Field.decode : (f : Field) → Node → Except Fault f.Content
  | .parameter => Node.text
  | .rules => RuleSettings.listOfNode
  | .kind _ => Node.flag

theorem settingsSchema_decodes :
    settingsSchema.Decodes Field.name Field.decode Settings.Draft.step where
  known d f node := by
    cases f with
    | parameter => exact ⟨fun c => { d with parameter := c }, fun _ => rfl, rfl⟩
    | rules => exact ⟨fun c => { d with rules := c }, fun _ => rfl, rfl⟩
    | kind k => cases k with
      | hash => exact ⟨fun c => { d with hashes := c }, fun _ => rfl, rfl⟩
      | number => exact ⟨fun c => { d with numbers := c }, fun _ => rfl, rfl⟩
      | uuid => exact ⟨fun c => { d with uuids := c }, fun _ => rfl, rfl⟩
      | ip => exact ⟨fun c => { d with ips := c }, fun _ => rfl, rfl⟩
      | image => exact ⟨fun c => { d with images := c }, fun _ => rfl, rfl⟩
      | font => exact ⟨fun c => { d with fonts := c }, fun _ => rfl, rfl⟩
  unknown d name node other := by
    unfold Settings.Draft.step
    split
    · next same => exact absurd (eq_toList_of_ofList same) (other .parameter)
    · next same => exact absurd (eq_toList_of_ofList same) (other .rules)
    · next same => exact absurd (eq_toList_of_ofList same) (other (.kind .hash))
    · next same => exact absurd (eq_toList_of_ofList same) (other (.kind .number))
    · next same => exact absurd (eq_toList_of_ofList same) (other (.kind .uuid))
    · next same => exact absurd (eq_toList_of_ofList same) (other (.kind .ip))
    · next same => exact absurd (eq_toList_of_ofList same) (other (.kind .image))
    · next same => exact absurd (eq_toList_of_ofList same) (other (.kind .font))
    · exact ⟨_, rfl⟩

theorem settingsSchema_converts (depth : Nat) :
    settingsSchema.Converts Field.decode (depth + 2) := by
  intro f node c decoded
  cases f with
  | parameter =>
    have string : node = .string (some c) := Json.Node.text_eq_ok_iff.1 decoded
    exact ⟨.string c, by rw [string, Node.value?]; rfl, rfl⟩
  | rules => exact toRules_of_listOfNode depth decoded
  | kind k =>
    have flag : node = .bool c := Json.Node.flag_eq_ok_iff.1 decoded
    exact ⟨.bool c, by simp [flag, Node.value?], rfl⟩

theorem drafted_empty (f : Field) : Field.drafted .empty f = none := by
  cases f with
  | kind k => cases k <;> rfl
  | _ => rfl

/-- Settings that are decoded from an object are converted from its value, in which no name is
repeated. -/
theorem toSettings_of_ofNode {s : Settings} (depth : Nat)
    (h : Settings.ofNode (.object members ending) = .ok s) :
    ∃ new, (Node.object members ending).value? (depth + 3) = some (.object new) ∧
      (new.map (·.1)).Nodup ∧ (Value.table (entriesOfJson new)).toSettings = .ok s := by
  obtain ⟨d, drafted, made⟩ := bind_eq_ok_iff.1 h
  cases made
  obtain ⟨rfl, new, values, once, entries⟩ := settingsSchema_decodes.entries_of_foldMembers
    settingsSchema_governs (settingsSchema_converts depth) (.nil _) drafted
  refine ⟨new, ?_, once, ?_⟩
  · rw [Node.value?]
    simp [values]
  · exact bind_eq_ok_iff.2 ⟨d, entries, rfl⟩

end Config

end RequestKeys
