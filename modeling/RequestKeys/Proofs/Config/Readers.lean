import RequestKeys.Proofs.Config.Members
import RequestKeys.Proofs.Config.Variable
import RequestKeys.Proofs.Json.Written
import RequestKeys.Proofs.Text.Encoded

/-!
# The readers of settings agree

Settings are read from JSON objects in two ways: strictly as they are decoded, with a default for each
field that is missing, and leniently as the layer of a file on top of the layer of the defaults.  What
the strict reader accepts, the lenient one accepts too, with the same settings, and both read back any
choice of fields as it is written (`load_of_ofJsonText`).
-/

namespace RequestKeys

/-! ## Writing fields -/

section Written

open Json (Node Spells SpellsMember)

namespace RuleSettings

variable (r : RuleSettings)

/-- What the JSON text of a rule is read as before its fields are looked at. -/
def node : Node :=
  .object [(some "pattern".toList, .string (some r.pattern)),
    (some "replacement".toList, .string (some r.replacement))] .closed

theorem spells_toJson : Spells r.toJson.write r.node :=
  Json.spells_object <|
    .cons (.intro _ (Json.spells_writeString r.pattern)) <|
    .cons (.intro _ (Json.spells_writeString r.replacement)) .nil

theorem ofNode_node : ofNode r.node = .ok r := rfl

theorem listOfNode_node (rules : List RuleSettings) :
    listOfNode (.array (rules.map node) .closed) = .ok rules := by
  show ofNodes .closed (rules.map node) = .ok rules
  induction rules with
  | nil => rfl
  | cons r rules ih =>
    rw [List.map_cons, ofNodes, ofNode_node, ih]
    rfl

end RuleSettings

namespace Config.Field

/-- The JSON value of the content of a field. -/
def toJson : (f : Field) → f.Content → Json.Value
  | parameter, text => .string text
  | rules, rs => .array (rs.map (·.toJson))
  | kind _, b => .bool b

/-- What the JSON text of a content is read as. -/
def node : (f : Field) → f.Content → Node
  | parameter, text => .string (some text)
  | rules, rs => .array (rs.map (·.node)) .closed
  | kind _, b => .bool b

theorem spells_toJson (f : Field) (c : f.Content) : Spells (f.toJson c).write (f.node c) := by
  cases f with
  | parameter => exact Json.spells_writeString c
  | rules =>
    refine Json.spells_array (List.forall₂_map_left_iff.2 (List.forall₂_map_right_iff.2 ?_))
    exact List.forall₂_same.2 fun r _ => r.spells_toJson
  | kind k => exact Json.spells_bool c

theorem decode_node (f : Field) (c : f.Content) : f.decode (f.node c) = .ok c := by
  cases f with
  | rules => exact RuleSettings.listOfNode_node c
  | _ => rfl

/-- All fields, in the order in which they are written. -/
def all : List Field :=
  [parameter, rules, kind .hash, kind .number, kind .uuid, kind .ip, kind .image, kind .font]

theorem mem_all (f : Field) : f ∈ all := by
  cases f with
  | kind k => cases k <;> decide
  | _ => decide

theorem nodup_all : all.Nodup := by decide

end Config.Field

namespace Settings

open Config (Field)

/-- The JSON value of some fields of settings. -/
def select (s : Settings) (fs : List Field) : Json.Value :=
  .object (fs.map fun f => (f.key, f.toJson (f.value s)))

theorem toJson_eq_select (s : Settings) : s.toJson = s.select Field.all := rfl

/-- The fields that are written are read back, whatever their order, and the others have their
defaults. -/
theorem exists_ofJsonText_select (s : Settings) {fs : List Field} (once : fs.Nodup) :
    ∃ t, ofJsonText (s.select fs).write = .ok t ∧
      ∀ f : Field, f.value t = if f ∈ fs then f.value s else f.value .defaults := by
  have members : Spells (s.select fs).write
      (.object (fs.map fun f => (some f.key, f.node (f.value s))) .closed) := by
    refine Json.spells_object (List.forall₂_map_left_iff.2 (List.forall₂_map_right_iff.2 ?_))
    exact List.forall₂_same.2 fun f _ => .intro _ (f.spells_toJson _)
  obtain ⟨d, drafted, inside, outside⟩ := Config.settingsSchema_decodes.exists_foldMembers once
    (fun f _ => Config.drafted_empty f) (fun f _ => f.decode_node (f.value s))
  refine ⟨d.settings, ?_, fun f => ?_⟩
  · rw [ofJsonText, Json.decode_of_spells members]
    exact bind_eq_ok_iff.2 ⟨d, drafted, rfl⟩
  · rw [Field.value_settings]
    split_ifs with chosen
    · rw [show Field.drafted d f = some (f.value s) from inside f chosen, Option.getD_some]
    · rw [show Field.drafted d f = none from (outside f chosen).trans (Config.drafted_empty f),
        Option.getD_none]

end Settings

end Written

namespace Config

/-! ## From the strict reader to the layers -/

section Loaded

variable {t : Table} {s : Settings} {e : Environment} {name text : List Char} {further : Formats}

theorem Field.not_means_table {f : Field} {entries : Table} {c : f.Content} :
    ¬ f.Means (.table entries) c := by
  cases f <;> simp [Means, Value.toText, Value.toBool]

theorem ofFields_of_accepts (once : (t.map (·.1)).Nodup)
    (accepted : ∀ a ∈ t, settingsSchema.Accepts a) : OfFields t where
  known a ha := by
    obtain ⟨f, -, key, -⟩ := accepted a ha
    exact ⟨f, key⟩
  once := once
  flat a ha entries table := by
    obtain ⟨f, c, -, converted⟩ := accepted a ha
    rw [table] at converted
    exact Field.not_means_table (Field.read_eq_ok_iff.1 converted)

/-- A table of fields that spells settings by itself makes them on top of the defaults. -/
theorem ofLayers_of_toSettings (once : (t.map (·.1)).Nodup)
    (h : (Value.table t).toSettings = .ok s) (unset : e.layer = []) :
    ofLayers (some t) e = .ok s := by
  obtain ⟨accepted, fields⟩ := toSettings_eq_ok_iff.1 h
  have named : e.SetsFields := ⟨by rw [unset]; exact nofun, by rw [unset]; exact List.nodup_nil⟩
  have ofFields : OfFields t := ofFields_of_accepts once accepted
  rw [ofLayers_eq_ok_iff named]
  refine ⟨fun a ha => ?_, fun f => ?_⟩
  · obtain ⟨f, key⟩ := ofFields.known a ha
    exact ⟨f, by rw [key, f.entryOf_key]⟩
  · have its := fields f
    rw [Value.entries, Table.last?_eq_get? once] at its
    rw [chosen?, unset, ← ofFields.get?_eq]
    show f.Agrees (t.get? f.key) (f.value s)
    cases found : t.get? f.key with
    | none =>
      rw [found] at its
      exact its
    | some v =>
      rw [found] at its
      exact Field.read_eq_ok_iff.1 its

theorem map_fst_entriesOfJson (members : List (List Char × Json.Value)) :
    (entriesOfJson members).map (·.1) = members.map (·.1) := by
  induction members with
  | nil => rw [entriesOfJson, List.map_nil, List.map_nil]
  | cons m members ih =>
    obtain ⟨name, v⟩ := m
    rw [entriesOfJson, List.map_cons, List.map_cons, ih]

/-- An object text that is accepted as settings spells a table without repeated names that spells the
same settings. -/
theorem exists_readJson?_of_ofJsonText (object : (Json.skipSpace text).head? = some '\x7b')
    (h : Settings.ofJsonText text = .ok s) :
    ∃ t, readJson? text = some t ∧ (t.map (·.1)).Nodup ∧ (Value.table t).toSettings = .ok s := by
  obtain ⟨members, ending, root⟩ :
      ∃ members ending, (Json.Document.ofText text).root = .object members ending := by
    obtain ⟨rest, opened⟩ := List.head?_eq_some_iff.1 object
    rw [Json.Document.ofText, Json.readValue, opened]
    exact ⟨_, _, rfl⟩
  obtain ⟨s', decoded, clean⟩ := bind_eq_ok_iff.1 h
  rw [root] at decoded
  split_ifs at clean with whole
  cases clean
  -- Settings, their rules and each of these are nested in one another, within the greatest depth.
  obtain ⟨new, value, once, converted⟩ := toSettings_of_ofNode (Json.maxDepth - 3) decoded
  have ofText : Json.Value.ofText? text = some (.object new) := by
    rw [Json.Value.ofText?, if_pos whole, root]
    exact value
  exact ⟨entriesOfJson new, by rw [readJson?, ofText], by rwa [map_fst_entriesOfJson], converted⟩

/-- A text that begins with a character of ASCII has no mark of its byte order. -/
theorem decodeText_encode {c : Char} (ascii : Utf8.IsAscii c) (text : List Char) :
    decodeText (Utf8.encode (c :: text)) = c :: text := by
  unfold decodeText
  split
  · next octets =>
    rw [Utf8.encode, List.flatMap_cons, Utf8.encodeChar_of_isAscii ascii] at octets
    have mark : c.toUInt8.toNat = 0xEF := congrArg UInt8.toNat (List.cons.inj octets).1
    have small : c.toNat < 0x80 := ascii
    rw [ascii.toNat_toUInt8] at mark
    omega
  · exact Utf8.decode_encode _

theorem exists_isAscii_of_object (object : (Json.skipSpace text).head? = some '\x7b') :
    ∃ c rest, text = c :: rest ∧ Utf8.IsAscii c := by
  cases text with
  | nil => cases object
  | cons c rest =>
    refine ⟨c, rest, rfl, ?_⟩
    cases space : Json.isSpace c with
    | true =>
      simp only [Json.isSpace, Bool.or_eq_true, beq_iff_eq] at space
      rcases space with ((rfl | rfl) | rfl) | rfl <;> decide
    | false =>
      rw [Json.skipSpace_of_not_isSpace space, List.head?_cons] at object
      obtain rfl := Option.some.inj object
      decide

/-- A file of a name with a text. -/
def File.ofText (name text : List Char) : File := ⟨name, some (Utf8.encode text)⟩

theorem load_ofText (json : Format.ofExtension? (extensionOf name) = some .json)
    (unset : e.layer = []) (object : (Json.skipSpace text).head? = some '\x7b')
    (h : Settings.ofJsonText text = .ok s) :
    further.load (some (.ofText name text)) e = .ok s := by
  obtain ⟨t, spelled, once, converted⟩ := exists_readJson?_of_ofJsonText object h
  obtain ⟨c, rest, rfl, ascii⟩ := exists_isAscii_of_object object
  have parsed : further.fileTable (some (.ofText name (c :: rest))) = .ok t := by
    simp only [Formats.fileTable, Formats.layer, Formats.reader?, File.ofText, json,
      decodeText_encode ascii, Format.read?, spelled]
  rw [load_eq_ofLayers parsed]
  exact ofLayers_of_toSettings once converted unset

end Loaded

/-! ## The main statement -/

/-- The text of the defaults spells their layer. -/
theorem read?_defaultText : Toml.read? defaultText.toList = some defaultLayer := by
  rw [defaultText, defaultLayer]
  simp only [String.reduceToList]
  cbv

/-- If no variable is one of the program, settings that are decoded from an object text are loaded
from a JSON file with this text, whatever other formats there are.  So settings are read back from their text in both ways; and if only
some of the fields are written, in any order, both ways give the others their defaults, which are what
the text of the defaults spells. -/
theorem load_of_ofJsonText {name : List Char} {e : Environment} {further : Formats}
    (json : Format.ofExtension? (extensionOf name) = some .json)
    (unset : ∀ a ∈ e, variableKey? a.1 = none) :
    (∀ s : Settings, Settings.ofJsonText s.toJsonText = .ok s ∧
      further.load (some (.ofText name s.toJsonText)) e = .ok s) ∧
    (∀ (text : List Char) (s : Settings), (Json.skipSpace text).head? = some '\x7b' →
      Settings.ofJsonText text = .ok s → further.load (some (.ofText name text)) e = .ok s) ∧
    (∀ (s : Settings) (fs : List Field), fs.Nodup → ∃ t : Settings,
      Settings.ofJsonText (s.select fs).write = .ok t ∧
      further.load (some (.ofText name (s.select fs).write)) e = .ok t ∧
      ∀ f : Field, f.value t = if f ∈ fs then f.value s else f.value .defaults) ∧
    Toml.read? defaultText.toList = some defaultLayer := by
  have loaded (text : List Char) (s : Settings) :
      (Json.skipSpace text).head? = some '\x7b' → Settings.ofJsonText text = .ok s →
        further.load (some (.ofText name text)) e = .ok s :=
    load_ofText json (layer_eq_nil unset)
  have opened (s : Settings) (fs : List Field) :
      (Json.skipSpace (s.select fs).write).head? = some '\x7b' := by
    cases fs <;> rfl
  refine ⟨fun s => ?_, loaded, fun s fs once => ?_, read?_defaultText⟩
  · obtain ⟨t, decoded, fields⟩ := s.exists_ofJsonText_select Field.nodup_all
    obtain rfl : t = s := Field.ext_value fun f => by rw [fields f, if_pos f.mem_all]
    rw [Settings.toJsonText, Settings.toJson_eq_select]
    exact ⟨decoded, loaded _ t (opened t Field.all) decoded⟩
  · obtain ⟨t, decoded, fields⟩ := s.exists_ofJsonText_select once
    exact ⟨t, decoded, loaded _ t (opened s fs) decoded, fields⟩

/-- The fields of the rule and of the settings stand in another order, most are missing, and a
character is escaped. -/
theorem load_of_ofJsonText_reordered :
    --  {"rewrite_rules":[{"replacement":"b","pattern":"\u0061"}],"sanitize_ips":false}
    let text : List Char := [' ', '\x7b', '"', 'r', 'e', 'w', 'r', 'i', 't', 'e', '_', 'r', 'u',
      'l', 'e', 's', '"', ':', '[', '\x7b', '"', 'r', 'e', 'p', 'l', 'a', 'c', 'e', 'm', 'e', 'n',
      't', '"', ':', '"', 'b', '"', ',', '"', 'p', 'a', 't', 't', 'e', 'r', 'n', '"', ':', '"',
      '\\', 'u', '0', '0', '6', '1', '"', '\x7d', ']', ',', '"', 's', 'a', 'n', 'i', 't', 'i', 'z',
      'e', '_', 'i', 'p', 's', '"', ':', 'f', 'a', 'l', 's', 'e', '\x7d']
    let name : List Char := ['c', '.', 'j', 's', 'o', 'n']
    let e : Environment := [(['H', 'O', 'M', 'E'], ['/'])]
    let s : Settings := { Settings.defaults with rules := [⟨['a'], ['b']⟩], ips := false }
    Format.ofExtension? (extensionOf name) = some .json ∧ (∀ a ∈ e, variableKey? a.1 = none) ∧
      Settings.ofJsonText text = .ok s ∧ load (some (.ofText name text)) e = .ok s := by
  intro text name e s
  have json : Format.ofExtension? (extensionOf name) = some .json := rfl
  have unset : ∀ a ∈ e, variableKey? a.1 = none := List.forall_mem_singleton.2 (by decide)
  have decoded : Settings.ofJsonText text = .ok s := rfl
  exact ⟨json, unset, decoded, (load_of_ofJsonText json unset).2.1 text s rfl decoded⟩

end Config

end RequestKeys
