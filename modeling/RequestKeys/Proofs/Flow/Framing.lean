import RequestKeys.Proofs.Flow.Batch
import RequestKeys.Proofs.Request.Key
import RequestKeys.Proofs.Request.Line

/-!
# One line for each key

The sink ends each key with a newline, so the keys can be read off the lines of the text exactly if
no key has a newline of its own.  Lines of the input end at newlines before anything is decoded, but
a newline that is escaped in a target is decoded and comes into the key as it is.
-/

namespace RequestKeys

/-! ## Newlines in keys -/

namespace KeyBuilder

variable {b : KeyBuilder} {e : Event}

/-- The key of an event has no newline from its path or its values. -/
def OneLine (b : KeyBuilder) (e : Event) : Prop :=
  '\n' ∉ b.path e ∧ ∀ v ∈ b.values e, '\n' ∉ v

theorem newline_not_mem_key_iff (method : '\n' ∉ e.method) : '\n' ∉ b.key e ↔ b.OneLine e := by
  rw [mem_key_iff (by decide), OneLine]
  simp [method]

theorem mem_values {v : List Char} (h : v ∈ b.values e) : v ∈ e.target.values b.parameter := by
  unfold values at h
  split_ifs at h
  · cases h
  · exact h

/-- A request of a line in which no line feed is escaped has a key of one line. -/
theorem oneLine_of_parse? {text : List Char} (h : Line.parse? text = some e)
    (bare : ¬ Percent.Escapes '\n'.toUInt8 text)
    (rules : ∀ r ∈ b.sanitizer.rules, '\n' ∉ r.replacement) : b.OneLine e := by
  refine ⟨fun newline => ?_, fun v hv newline =>
    bare (Line.escapes_of_newline_mem_value h (mem_values hv) newline)⟩
  have placeholder : ∀ kind : Path.Kind, '\n' ∉ kind.placeholder := by
    intro kind
    cases kind <;> decide
  rcases Path.mem_or_mem_replacement_of_mem_sanitize (by decide) (by decide) placeholder newline
    with found | ⟨r, hr, found⟩
  · exact bare (Line.escapes_of_newline_mem_path h found)
  · exact rules r hr found

end KeyBuilder

/-! ## The octets of a line -/

namespace Line

variable {input line : List UInt8}

theorem infix_of_mem_split (h : line ∈ split input) : line <:+: input := by
  -- On the length of the input: behind the first line feed there is less of it.
  induction size : input.length using Nat.strongRecOn generalizing input with
  | ind n ih =>
    by_cases exhausted : input = []
    · subst exhausted
      cases h
    · cases found : Split.cut lineFeed input with
      | none =>
        rw [split_of_cut_eq_none found exhausted, List.mem_singleton] at h
        exact h ▸ List.infix_rfl
      | some parts =>
        rw [split_of_cut_eq_some found] at h
        rcases List.mem_cons.1 h with rfl | h
        · exact (Split.prefix_of_cut_eq_some found).isInfix
        · have less : parts.2.length < n := by
            rw [← size, Split.eq_append_of_cut_eq_some found, List.length_append, List.length_cons]
            omega
          exact (ih _ less h rfl).trans (Split.suffix_of_cut_eq_some found).isInfix

theorem trim_isPrefix (line : List UInt8) : trim line <+: line := by
  unfold trim
  split_ifs
  · exact List.dropLast_prefix line
  · exact List.prefix_rfl

/-- An escape in a line stands in the octets of the input. -/
theorem infix_of_escapes (h : line ∈ split input)
    (escaped : Percent.Escapes '\n'.toUInt8 (Utf8.decode (trim line))) :
    [0x25, 0x30, 0x41] <:+: input ∨ [0x25, 0x30, 0x61] <:+: input := by
  have within : trim line <:+: input := (trim_isPrefix line).isInfix.trans (infix_of_mem_split h)
  refine (Percent.escapes_lineFeed_iff.1 escaped).imp (fun found => ?_) fun found => ?_
  · exact (Utf8.map_toUInt8_isInfix (by simp [Utf8.IsAscii]) found).trans within
  · exact (Utf8.map_toUInt8_isInfix (by simp [Utf8.IsAscii]) found).trans within

end Line

/-! ## The lines of the text -/

namespace Batch

variable {b : KeyBuilder} {input : List UInt8} {e : Event}

theorem newline_not_mem_key_iff (h : e ∈ requests input) : '\n' ∉ b.key e ↔ b.OneLine e := by
  obtain ⟨line, _, read⟩ := List.mem_filterMap.1 h
  exact KeyBuilder.newline_not_mem_key_iff (Line.newline_not_mem_method read)

theorem oneLine_of_mem_requests (upper : ¬ [0x25, 0x30, 0x41] <:+: input)
    (lower : ¬ [0x25, 0x30, 0x61] <:+: input)
    (rules : ∀ r ∈ b.sanitizer.rules, '\n' ∉ r.replacement) (h : e ∈ requests input) :
    b.OneLine e := by
  obtain ⟨line, found, read⟩ := List.mem_filterMap.1 h
  refine KeyBuilder.oneLine_of_parse? read (fun escaped => ?_) rules
  exact (Line.infix_of_escapes found escaped).elim upper lower

theorem map_line_keyed (b : KeyBuilder) (input : List UInt8) :
    (keyed b input).map Format.key.line = ((requests input).map b.key).map (· ++ ['\n']) := by
  simp [keyed, Format.line, Format.render]

end Batch

namespace Pipeline

variable {builder : KeyBuilder} {inCapacity outCapacity : Nat} {input : List UInt8} {p : Pipeline}

/-- A pipeline that writes keys writes each key and a newline.  The lines of its text are the keys,
and as many as were written, exactly if no sanitized path and no value has a newline; for that it is
enough that no line feed is escaped in the input and that no rule brings one in. -/
theorem pieces_text_iff_of_ended
    (h : Reachable builder .key inCapacity outCapacity input p) (ended : p.Ended) :
    p.sink.written = (Batch.requests input).length ∧
    p.sink.text = ((Batch.requests input).map fun e => builder.key e ++ ['\n']).flatten ∧
    (Split.pieces '\n' p.sink.text = (Batch.requests input).map builder.key ++ [[]] ↔
      ∀ e ∈ Batch.requests input, builder.OneLine e) ∧
    (p.sink.text.count '\n' = p.sink.written ↔
      ∀ e ∈ Batch.requests input, builder.OneLine e) ∧
    (¬ [0x25, 0x30, 0x41] <:+: input → ¬ [0x25, 0x30, 0x61] <:+: input →
      (∀ r ∈ builder.sanitizer.rules, '\n' ∉ r.replacement) →
      Split.pieces '\n' p.sink.text = (Batch.requests input).map builder.key ++ [[]]) := by
  have lines := h.balanced.lines_eq_of_ended h.orderly ended
  rw [Batch.map_line_keyed] at lines
  have written : p.sink.written = ((Batch.requests input).map builder.key).length := by
    rw [Sink.written, ← List.length_reverse, lines, List.length_map]
  have bare : (∀ l ∈ (Batch.requests input).map builder.key, '\n' ∉ l) ↔
      ∀ e ∈ Batch.requests input, builder.OneLine e := by
    rw [List.forall_mem_map]
    exact forall₂_congr fun e he => Batch.newline_not_mem_key_iff he
  rw [Sink.text, lines, written, Split.pieces_flatten_concat_iff, Split.count_flatten_concat_iff,
    bare]
  refine ⟨List.length_map _, ?_, Iff.rfl, Iff.rfl, fun upper lower rules e he => ?_⟩
  · rw [List.map_map]
    rfl
  · exact Batch.oneLine_of_mem_requests upper lower rules he

/-- An escape of another octet and a request without a newline behind it. -/
theorem pieces_text_iff_of_ended_two_requests :
    let b : KeyBuilder := ⟨⟨.all, []⟩, ['o', 'p']⟩
    let input : List UInt8 := [0x47, 0x45, 0x54, 0x20, 0x2F, 0x75, 0x3F, 0x6F, 0x70, 0x3D, 0x25,
      0x34, 0x31, 0x0A, 0x47, 0x20, 0x2F]
    let p := run b .key 1 input
    p.Ended ∧ p.sink.written = 2 ∧
      Split.pieces '\n' p.sink.text = ["GET:/u:A".toList, "G:/".toList, []] := by
  intro b input p
  have ended : p.Ended := ⟨by decide, by decide, by decide⟩
  obtain ⟨written, -, -, -, framed⟩ :=
    pieces_text_iff_of_ended (reachable_run b .key 1 input) ended
  exact ⟨ended, written.trans (by decide),
    (framed (by decide) (by decide) nofun).trans (by decide)⟩

/-- One request whose path has an escaped line feed is written as two lines. -/
theorem pieces_text_of_escaped_lineFeed :
    let b : KeyBuilder := ⟨⟨.all, []⟩, []⟩
    let input : List UInt8 :=
      [0x47, 0x45, 0x54, 0x20, 0x2F, 0x61, 0x25, 0x30, 0x41, 0x62, 0x0A]
    let p := run b .key 1 input
    p.Ended ∧ p.sink.written = 1 ∧ p.sink.text = "GET:/a\nb\n".toList ∧
      p.sink.text.count '\n' = 2 ∧
      Split.pieces '\n' p.sink.text ≠ (Batch.requests input).map b.key ++ [[]] := by
  intro b input p
  have ended : p.Ended := ⟨by decide, by decide, by decide⟩
  exact ⟨ended, by decide, by decide, by decide, by decide⟩

end Pipeline

end RequestKeys
