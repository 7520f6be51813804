import Mathlib.Data.List.DropRight
import Mathlib.Data.List.Forall2
import Mathlib.Tactic.SplitIfs
import RequestKeys.Json.Fault
import RequestKeys.Json.Value

/-!
# Reading written JSON

A written text spells a node if it is read as that node wherever it stands (`Spells`).  Strings spell
their text, whatever characters they are made of (`spells_writeString`), and arrays and objects spell
what their items and members spell (`spells_array`, `spells_object`), so what a record is read back as
is put together from its fields.  No written text has a control character.
-/

namespace RequestKeys

theorem hexValue?_lowerHexDigit : ∀ {n : Nat}, n < 16 → hexValue? (lowerHexDigit n) = some n := by
  decide

theorem le_toNat_lowerHexDigit : ∀ {n : Nat}, n < 16 → 0x20 ≤ (lowerHexDigit n).toNat := by
  decide

namespace Json

variable {c d : Char} {text rest : List Char} {n : Nat}

/-! ## Strings -/

/-- The four digits that are written for a character of the first two hundred and fifty-six. -/
theorem unit?_lowerHexDigit (small : n < 0x100) :
    unit? '0' '0' (lowerHexDigit (n / 16)) (lowerHexDigit (n % 16)) = some n := by
  have zero : hexValue? '0' = some 0 := rfl
  have high := hexValue?_lowerHexDigit (n := n / 16) (by omega)
  have low := hexValue?_lowerHexDigit (n := n % 16) (by omega)
  simp only [unit?, isHexDigit, digitsValue, List.foldl_cons, List.foldl_nil, zero, high, low,
    Option.isSome_some, Bool.and_self, if_true, Option.getD_some, Option.some.injEq]
  omega

/-- What is read of a string that has one more character at its front. -/
def withFront (c : Char) (read : Except Defect (List Char) × Except Defect (List Char)) :
    Except Defect (List Char) × Except Defect (List Char) :=
  (read.1.map (c :: ·), read.2)

theorem readString_shortEscape (short : shortEscape? d = some c) :
    readString ('\\' :: d :: rest) = withFront c (readString rest) := by
  have other : d ≠ 'u' := by
    rintro rfl
    cases short
  rw [readString]
  · simp only [short]
    rfl
  · simp [other]
  · simp [other]

theorem readString_unit (control : c.toNat < 0x20) :
    readString ('\\' :: 'u' :: '0' :: '0' :: lowerHexDigit (c.toNat / 16) ::
      lowerHexDigit (c.toNat % 16) :: rest) = withFront c (readString rest) := by
  have low : isLowSurrogate c.toNat = false := by
    simp only [isLowSurrogate, Bool.and_eq_false_iff, decide_eq_false_iff_not]
    omega
  have high : isHighSurrogate c.toNat = false := by
    simp only [isHighSurrogate, Bool.and_eq_false_iff, decide_eq_false_iff_not]
    omega
  rw [readString, unit?_lowerHexDigit (by omega)]
  simp only [low, high, Bool.false_eq_true, if_false, Char.ofNat_toNat]
  rfl

theorem readString_plain (quote : c ≠ '"') (backslash : c ≠ '\\') (plain : ¬ c.toNat < 0x20) :
    readString (c :: rest) = withFront c (readString rest) := by
  rw [readString]
  · rw [if_neg plain]
    rfl
  all_goals simp [quote, backslash]

theorem readString_escapeChar (c : Char) (rest : List Char) :
    readString (escapeChar c ++ rest) = withFront c (readString rest) := by
  unfold escapeChar
  split_ifs with quote backslash backspace formFeed lineFeed carriageReturn tab control
  · exact readString_shortEscape (by rw [quote]; rfl)
  · exact readString_shortEscape (by rw [backslash]; rfl)
  · exact readString_shortEscape (by rw [backspace]; rfl)
  · exact readString_shortEscape (by rw [formFeed]; rfl)
  · exact readString_shortEscape (by rw [lineFeed]; rfl)
  · exact readString_shortEscape (by rw [carriageReturn]; rfl)
  · exact readString_shortEscape (by rw [tab]; rfl)
  · exact readString_unit control
  · exact readString_plain quote backslash control

theorem writeString_append (text rest : List Char) :
    writeString text ++ rest = '"' :: (text.flatMap escapeChar ++ '"' :: rest) := by
  simp only [writeString, List.cons_append, List.append_assoc, List.nil_append]

/-- A written string is read back, up to its closing quote. -/
theorem readString_flatMap_escapeChar (text rest : List Char) :
    readString (text.flatMap escapeChar ++ '"' :: rest) = (.ok text, .ok rest) := by
  induction text with
  | nil => rfl
  | cons c text ih =>
    rw [List.flatMap_cons, List.append_assoc, readString_escapeChar, ih]
    rfl

/-! ## Values -/

theorem skipSpace_of_not_isSpace (h : isSpace c = false) : skipSpace (c :: rest) = c :: rest := by
  rw [skipSpace, List.dropWhile_cons_of_neg (by simp [h])]

/-- The text is read as the node, whatever comes after it. -/
def Spells (text : List Char) (node : Node) : Prop :=
  ∀ fuel rest, text.length ≤ fuel → readValue fuel (text ++ rest) = (node, some rest)

theorem spells_writeString (text : List Char) :
    Spells (writeString text) (.string (some text)) := by
  intro fuel rest enough
  cases fuel with
  | zero => cases enough
  | succ fuel =>
    rw [writeString_append, readValue, skipSpace_of_not_isSpace rfl]
    simp only [readString_flatMap_escapeChar]

theorem readWord_append (node : Node) (word rest : List Char) :
    readWord node word (word ++ rest) = (node, some rest) := by
  induction word with
  | nil => rfl
  | cons c word ih => rw [List.cons_append, readWord, if_pos rfl, ih]

theorem spells_bool (b : Bool) : Spells (Value.bool b).write (.bool b) := by
  intro fuel rest enough
  cases fuel with
  | zero => cases b <;> cases enough
  | succ fuel =>
    rw [readValue]
    cases b
    · exact readWord_append _ ['a', 'l', 's', 'e'] rest
    · exact readWord_append _ ['r', 'u', 'e'] rest

/-- A text that spells a node is decoded as that node is read. -/
theorem decode_of_spells {α : Type} {read : Node → Except Fault α} {node : Node}
    (h : Spells text node) : decode read text = read node := by
  have reading := h (text.length + 1) [] (Nat.le_succ _)
  rw [List.append_nil] at reading
  have document : Document.ofText text = ⟨node, true⟩ := by
    rw [Document.ofText, reading]
    rfl
  rw [decode, document]
  cases read node <;> rfl

/-! ## Arrays -/

section Arrays

variable {fuel : Nat} {node : Node} {nodes : List Node} {ending : Ending}
  {after : Option (List Char)} {items : List Value}

theorem readValue_skipSpace (fuel : Nat) (text : List Char) :
    readValue fuel (skipSpace text) = readValue fuel text := by
  have twice : skipSpace (skipSpace text) = skipSpace text := List.dropWhile_idempotent _ text
  cases fuel with
  | zero => rw [readValue, readValue]
  | succ fuel => rw [readValue, readValue, twice]

/-- What is read as a value is not the end of an array. -/
theorem exists_skipSpace_eq (h : readValue fuel text = (node, some rest)) :
    ∃ c tail, skipSpace text = c :: tail ∧ c ≠ ']' ∧
      readValue fuel (c :: tail) = (node, some rest) := by
  cases fuel with
  | zero =>
    rw [readValue] at h
    cases h
  | succ fuel =>
    cases there : skipSpace text with
    | nil =>
      rw [readValue, there] at h
      cases h
    | cons c tail =>
      refine ⟨c, tail, rfl, ?_, by rw [← there, readValue_skipSpace, h]⟩
      rintro rfl
      rw [readValue, there] at h
      cases h

theorem Spells.length_pos (h : Spells text node) : 0 < text.length := by
  refine List.length_pos_iff.2 ?_
  rintro rfl
  have read := h 0 [] (Nat.le_refl 0)
  rw [List.nil_append, readValue] at read
  cases read

theorem readItems_closing (fuel : Nat) (first : Bool) (rest : List Char) :
    readItems (fuel + 1) first (']' :: rest) = ([], .closed, some rest) := by
  rw [readItems, skipSpace_of_not_isSpace rfl]
  rfl

theorem readItems_first (ofItem : readValue fuel text = (node, some rest))
    (others : readItems fuel false rest = (nodes, ending, after)) :
    readItems (fuel + 1) true text = (node :: nodes, ending, after) := by
  obtain ⟨c, tail, there, other, ofItem⟩ := exists_skipSpace_eq ofItem
  rw [readItems, there]
  simp [ofItem, others]

theorem readItems_comma (ofItem : readValue fuel text = (node, some rest))
    (others : readItems fuel false rest = (nodes, ending, after)) :
    readItems (fuel + 1) false (',' :: text) = (node :: nodes, ending, after) := by
  obtain ⟨c, tail, there, other, ofItem⟩ := exists_skipSpace_eq ofItem
  rw [readItems, skipSpace_of_not_isSpace rfl]
  simp [there, other, ofItem, others]

theorem readItems_writeItems (h : List.Forall₂ (fun item node => Spells item.write node) items nodes)
    (enough : (writeItems items).length ≤ fuel) :
    readItems fuel false (writeItems items ++ rest) = (nodes, .closed, some rest) := by
  induction h generalizing fuel with
  | nil =>
    rw [writeItems] at enough ⊢
    cases fuel with
    | zero => cases enough
    | succ fuel => exact readItems_closing fuel false rest
  | cons spelled _ ih =>
    rw [writeItems] at enough ⊢
    simp only [List.length_cons, List.length_append] at enough
    cases fuel with
    | zero => omega
    | succ fuel =>
      simp only [List.cons_append, List.append_assoc]
      exact readItems_comma (spelled fuel _ (by omega)) (ih (by omega))

theorem spells_array (h : List.Forall₂ (fun item node => Spells item.write node) items nodes) :
    Spells (Value.array items).write (.array nodes .closed) := by
  intro fuel rest enough
  cases h with
  | nil =>
    rw [Value.write] at enough ⊢
    obtain ⟨fuel, rfl⟩ : ∃ k, fuel = k + 2 := ⟨fuel - 2, by simp at enough; omega⟩
    rw [List.cons_append, readValue, skipSpace_of_not_isSpace rfl]
    simp only [List.cons_append, List.nil_append, readItems_closing]
  | @cons _ _ items _ spelled others =>
    rw [Value.write] at enough ⊢
    simp only [List.length_cons, List.length_append] at enough
    have some_char := spelled.length_pos
    obtain ⟨fuel, rfl⟩ : ∃ k, fuel = k + 2 := ⟨fuel - 2, by omega⟩
    have closed : 0 < (writeItems items).length := by cases items <;> simp [writeItems]
    have ofItem := spelled fuel (writeItems items ++ rest) (by omega)
    have ofOthers : readItems fuel false (writeItems items ++ rest) = (_, .closed, some rest) :=
      readItems_writeItems others (by omega)
    rw [List.cons_append, readValue, skipSpace_of_not_isSpace rfl]
    simp only [List.append_assoc, readItems_first ofItem ofOthers]

end Arrays

/-! ## Objects -/

variable {fuel : Nat} {name value : List Char} {node : Node}
  {nodes : List (Option (List Char) × Node)} {ending : Ending} {after : Option (List Char)}
  {members : List (List Char × Value)}

theorem readMembers_closing (fuel : Nat) (first : Bool) (rest : List Char) :
    readMembers (fuel + 1) first ('\x7d' :: rest) = ([], .closed, some rest) := by
  rw [readMembers, skipSpace_of_not_isSpace rfl]
  rfl

theorem readMembers_first (ofValue : readValue fuel (value ++ rest) = (node, some rest))
    (others : readMembers fuel false rest = (nodes, ending, after)) :
    readMembers (fuel + 1) true (writeString name ++ ':' :: (value ++ rest)) =
      ((some name, node) :: nodes, ending, after) := by
  rw [writeString_append, readMembers, skipSpace_of_not_isSpace rfl]
  simp [readString_flatMap_escapeChar, skipSpace_of_not_isSpace (c := ':') rfl, ofValue, others]

/-- After a member, a comma and a quote go on as a quote does at the front. -/
theorem readMembers_comma (fuel : Nat) (rest : List Char) :
    readMembers (fuel + 1) false (',' :: '"' :: rest) = readMembers (fuel + 1) true ('"' :: rest) := by
  rw [readMembers, readMembers, skipSpace_of_not_isSpace rfl, skipSpace_of_not_isSpace rfl]
  simp [skipSpace_of_not_isSpace (c := '"') rfl]

/-- A member is read with its name and the node that its value spells. -/
inductive SpellsMember : List Char × Value → Option (List Char) × Node → Prop where
  | intro {value : Value} {node : Node} (name : List Char) (h : Spells value.write node) :
      SpellsMember (name, value) (some name, node)

theorem readMembers_writeMembers (h : List.Forall₂ SpellsMember members nodes)
    (enough : (writeMembers members).length ≤ fuel) :
    readMembers fuel false (writeMembers members ++ rest) = (nodes, .closed, some rest) := by
  induction h generalizing fuel with
  | nil =>
    rw [writeMembers] at enough ⊢
    cases fuel with
    | zero => cases enough
    | succ fuel => exact readMembers_closing fuel false rest
  | cons member _ ih =>
    obtain ⟨name, spelled⟩ := member
    rw [writeMembers] at enough ⊢
    simp only [List.length_cons, List.length_append] at enough
    cases fuel with
    | zero => omega
    | succ fuel =>
      simp only [List.cons_append, List.append_assoc]
      rw [writeString_append, readMembers_comma, ← writeString_append]
      exact readMembers_first (spelled fuel _ (by omega)) (ih (by omega))

theorem spells_object (h : List.Forall₂ SpellsMember members nodes) :
    Spells (Value.object members).write (.object nodes .closed) := by
  intro fuel rest enough
  cases h with
  | nil =>
    rw [Value.write] at enough ⊢
    obtain ⟨fuel, rfl⟩ : ∃ k, fuel = k + 2 := ⟨fuel - 2, by simp at enough; omega⟩
    rw [List.cons_append, readValue, skipSpace_of_not_isSpace rfl]
    simp only [List.cons_append, List.nil_append, readMembers_closing]
  | @cons _ _ members _ member others =>
    obtain ⟨name, spelled⟩ := member
    rw [Value.write] at enough ⊢
    simp only [List.length_cons, List.length_append] at enough
    obtain ⟨fuel, rfl⟩ : ∃ k, fuel = k + 2 := ⟨fuel - 2, by omega⟩
    have ofValue := spelled fuel (writeMembers members ++ rest) (by omega)
    have ofOthers : readMembers fuel false (writeMembers members ++ rest) = (_, .closed, some rest) :=
      readMembers_writeMembers others (by omega)
    rw [List.cons_append, readValue, skipSpace_of_not_isSpace rfl]
    simp only [List.cons_append, List.append_assoc, readMembers_first ofValue ofOthers]

/-! ## Control characters -/

/-- The text has no control character, and so no line ends in it. -/
def Clear (text : List Char) : Prop := ∀ c ∈ text, 0x20 ≤ c.toNat

@[simp]
theorem clear_nil : Clear [] := nofun

@[simp]
theorem clear_cons : Clear (c :: text) ↔ 0x20 ≤ c.toNat ∧ Clear text := List.forall_mem_cons

theorem clear_append : Clear (text ++ rest) ↔ Clear text ∧ Clear rest := List.forall_mem_append

theorem Clear.newline_not_mem (h : Clear text) : '\n' ∉ text := fun newline =>
  absurd (h '\n' newline) (by decide)

theorem clear_escapeChar (c : Char) : Clear (escapeChar c) := by
  unfold escapeChar
  split_ifs with quote backslash backspace formFeed lineFeed carriageReturn tab control
  all_goals simp
  · exact ⟨le_toNat_lowerHexDigit (by omega), le_toNat_lowerHexDigit (by omega)⟩
  · exact Nat.le_of_not_lt control

theorem clear_writeString (text : List Char) : Clear (writeString text) := by
  have escaped : Clear (text.flatMap escapeChar) :=
    List.forall_mem_flatMap.2 fun c _ => clear_escapeChar c
  simp [writeString, clear_append, escaped]

theorem clear_writeMembers (h : ∀ m ∈ members, Clear m.2.write) : Clear (writeMembers members) := by
  induction members with
  | nil => simp [writeMembers]
  | cons m members ih =>
    obtain ⟨value, others⟩ := List.forall_mem_cons.1 h
    simp [writeMembers, clear_append, clear_writeString, value, ih others]

theorem clear_object (h : ∀ m ∈ members, Clear m.2.write) : Clear (Value.object members).write := by
  cases members with
  | nil => simp [Value.write]
  | cons m members =>
    obtain ⟨value, others⟩ := List.forall_mem_cons.1 h
    simp [Value.write, clear_append, clear_writeString, value, clear_writeMembers others]

end Json

end RequestKeys
