import RequestKeys.Proofs.Flow.Batch
import RequestKeys.Proofs.Flow.Termination
import RequestKeys.Proofs.Text.Split

/-!
# Lines that do not touch each other

An input is cut into lines before anything is decoded, and no task carries anything from one request
to the next.  So what a pipeline makes of an input that is cut behind a line feed is what it makes of
the two parts, one after the other (`Pipeline.text_append_of_outcome`): the octets of a line, text or
not, have a say about the line's own request only.
-/

namespace RequestKeys

/-! ## Lines -/

namespace Line

variable {line : List UInt8}

theorem split_ne_nil {input : List UInt8} (h : input ≠ []) : split input ≠ [] := by
  cases input with
  | nil => exact absurd rfl h
  | cons b rest =>
    rw [split]
    split_ifs
    · exact List.cons_ne_nil _ _
    · cases split rest <;> exact List.cons_ne_nil _ _

/-- The lines behind a line feed begin anew. -/
theorem split_append_cons (before after : List UInt8) :
    split (before ++ lineFeed :: after) = split (before ++ [lineFeed]) ++ split after := by
  induction before with
  | nil => simp [split]
  | cons b before ih =>
    simp only [List.cons_append, split]
    by_cases ends : b = lineFeed
    · rw [if_pos ends, if_pos ends, ih, List.cons_append]
    · have more : split (before ++ [lineFeed]) ≠ [] := split_ne_nil (by simp)
      obtain ⟨line, lines, first⟩ := List.exists_cons_of_ne_nil more
      rw [if_neg ends, if_neg ends, ih, first, List.cons_append, List.cons_append]

theorem split_concat (h : lineFeed ∉ line) : split (line ++ [lineFeed]) = [line] :=
  split_of_cut_eq_some (Split.cut_append_cons h [])

end Line

/-! ## The batch of two parts -/

namespace Batch

open Line (lineFeed)

variable {line : List UInt8}

theorem requests_append_cons (before after : List UInt8) :
    requests (before ++ lineFeed :: after) = requests (before ++ [lineFeed]) ++ requests after := by
  rw [requests, Line.split_append_cons, List.filterMap_append]
  rfl

theorem skipped_append_cons (before after : List UInt8) :
    skipped (before ++ lineFeed :: after) = skipped (before ++ [lineFeed]) + skipped after := by
  rw [skipped, Line.split_append_cons, List.countP_append]
  rfl

theorem output_append_cons (b : KeyBuilder) (format : Format) (before after : List UInt8) :
    output b format (before ++ lineFeed :: after) =
      output b format (before ++ [lineFeed]) ++ output b format after := by
  rw [output, keyed, requests_append_cons, List.map_append, List.map_append, List.flatten_append]
  rfl

theorem requests_concat (h : lineFeed ∉ line) :
    requests (line ++ [lineFeed]) = (Line.read? line).toList := by
  rw [requests, Line.split_concat h]
  cases read : Line.read? line <;> simp [read]

theorem skipped_concat (h : lineFeed ∉ line) :
    skipped (line ++ [lineFeed]) = if (Line.read? line).isNone then 1 else 0 := by
  rw [skipped, Line.split_concat h, List.countP_singleton]

/-- What is written for a line alone. -/
def ownText (b : KeyBuilder) (format : Format) (line : List UInt8) : List Char :=
  match Line.read? line with
  | some e => format.line { e with key := b.key e }
  | none => []

theorem output_concat (b : KeyBuilder) (format : Format) (h : lineFeed ∉ line) :
    output b format (line ++ [lineFeed]) = ownText b format line := by
  rw [output, keyed, requests_concat h, ownText]
  cases Line.read? line <;> simp

end Batch

namespace Pipeline

open Line (lineFeed)

variable {builder : KeyBuilder} {format : Format} {input line : List UInt8} {p : Pipeline}

/-! ## What a pipeline comes to -/

/-- A state in which all tasks have ended, after any interleaving of their steps and with channels of
any size. -/
def Outcome (builder : KeyBuilder) (format : Format) (input : List UInt8) (p : Pipeline) : Prop :=
  ∃ inCapacity outCapacity,
    Reachable builder format inCapacity outCapacity input p ∧ p.Ended

theorem outcome_run (builder : KeyBuilder) (format : Format) {capacity : Nat} (room : 0 < capacity)
    (input : List UInt8) : Outcome builder format input (run builder format capacity input) :=
  ⟨capacity, capacity, reachable_run builder format capacity input,
    ended_run builder format room input⟩

theorem Outcome.text_eq (h : Outcome builder format input p) :
    p.sink.text = Batch.output builder format input := by
  obtain ⟨inCapacity, outCapacity, reached, ended⟩ := h
  exact reached.text_eq_of_ended ended

/-- The counters of requests at the end: of those sent, taken, keyed and written. -/
theorem Outcome.requests_counted (h : Outcome builder format input p) :
    p.feed.accepted = (Batch.requests input).length ∧
    p.stage.summary.received = (Batch.requests input).length ∧
    p.stage.summary.normalized = (Batch.requests input).length ∧
    p.sink.written = (Batch.requests input).length := by
  obtain ⟨inCapacity, outCapacity, reached, ended⟩ := h
  have m := reached.balanced
  have o := reached.orderly
  have nothing : p.coming = [] := o.coming_eq_nil ended
  have unsent : p.feed.ahead = [] := (List.append_eq_nil_iff.1 nothing).2
  have accepted := m.accepted_add
  have received := m.received_add
  have lines := congrArg List.length (m.lines_eq_of_ended o ended)
  rw [unsent, List.length_nil, Nat.add_zero] at accepted
  rw [nothing, List.length_nil, Nat.add_zero] at received
  rw [List.length_reverse, List.length_map, Batch.length_keyed] at lines
  exact ⟨accepted, received, m.normalized_eq.trans received, lines⟩

theorem Outcome.skipped_eq (h : Outcome builder format input p) :
    p.feed.skipped = Batch.skipped input := by
  obtain ⟨inCapacity, outCapacity, reached, ended⟩ := h
  have exhausted := (reached.orderly.feed_ended ended.1).1
  have skipped := reached.balanced.skipped_add
  rw [Feed.blankAhead, exhausted] at skipped
  exact skipped

/-! ## The main statement -/

/-- All tasks of a pipeline come to their end if its channels have room.  At the end, the text for an
input that is cut behind a line feed is the text for the first part and then that for the second,
and each counter is the sum of those for the parts.  So a line between others adds its own text, and
one to the requests or to the other lines, and changes nothing else. -/
theorem text_append_of_outcome (builder : KeyBuilder) (format : Format)
    (before after : List UInt8) :
    (∀ input capacity, 0 < capacity →
      Outcome builder format input (run builder format capacity input)) ∧
    (∀ p q r, Outcome builder format (before ++ lineFeed :: after) p →
      Outcome builder format (before ++ [lineFeed]) q → Outcome builder format after r →
      p.sink.text = q.sink.text ++ r.sink.text ∧
      p.feed.accepted = q.feed.accepted + r.feed.accepted ∧
      p.feed.skipped = q.feed.skipped + r.feed.skipped ∧
      p.stage.summary.received = q.stage.summary.received + r.stage.summary.received ∧
      p.stage.summary.normalized = q.stage.summary.normalized + r.stage.summary.normalized ∧
      p.sink.written = q.sink.written + r.sink.written) ∧
    ∀ line, lineFeed ∉ line → ∀ p q r,
      Outcome builder format (before ++ lineFeed :: (line ++ lineFeed :: after)) p →
      Outcome builder format (before ++ [lineFeed]) q → Outcome builder format after r →
      p.sink.text = q.sink.text ++ Batch.ownText builder format line ++ r.sink.text ∧
      p.feed.accepted =
        q.feed.accepted + (if (Line.read? line).isSome then 1 else 0) + r.feed.accepted ∧
      p.feed.skipped =
        q.feed.skipped + (if (Line.read? line).isNone then 1 else 0) + r.feed.skipped := by
  refine ⟨fun input capacity room => outcome_run builder format room input,
    fun p q r whole first second => ?_, fun line bare p q r whole first second => ?_⟩
  · have requests := congrArg List.length (Batch.requests_append_cons before after)
    rw [List.length_append] at requests
    obtain ⟨accepted, received, normalized, written⟩ := whole.requests_counted
    obtain ⟨accepted₁, received₁, normalized₁, written₁⟩ := first.requests_counted
    obtain ⟨accepted₂, received₂, normalized₂, written₂⟩ := second.requests_counted
    refine ⟨?_, ?_, ?_, ?_, ?_, ?_⟩
    · rw [whole.text_eq, first.text_eq, second.text_eq, Batch.output_append_cons]
    · rw [accepted, accepted₁, accepted₂, requests]
    · rw [whole.skipped_eq, first.skipped_eq, second.skipped_eq, Batch.skipped_append_cons]
    · rw [received, received₁, received₂, requests]
    · rw [normalized, normalized₁, normalized₂, requests]
    · rw [written, written₁, written₂, requests]
  · refine ⟨?_, ?_, ?_⟩
    · rw [whole.text_eq, first.text_eq, second.text_eq, Batch.output_append_cons,
        Batch.output_append_cons builder format line,
        Batch.output_concat builder format bare, List.append_assoc]
    · rw [whole.requests_counted.1, first.requests_counted.1, second.requests_counted.1,
        Batch.requests_append_cons, Batch.requests_append_cons line, Batch.requests_concat bare]
      simp only [List.length_append, Nat.add_assoc]
      cases Line.read? line <;> rfl
    · rw [whole.skipped_eq, first.skipped_eq, second.skipped_eq, Batch.skipped_append_cons,
        Batch.skipped_append_cons line, Batch.skipped_concat bare, Nat.add_assoc]

/-- A line that ends within a character, with an open quote, between two requests. -/
theorem text_append_of_outcome_torn_line :
    let b : KeyBuilder := ⟨⟨.all, []⟩, []⟩
    let before : List UInt8 := [0x47, 0x20, 0x2F, 0x34, 0x32]
    let line : List UInt8 := [0x22, 0x47, 0x20, 0x2F, 0xE2, 0x82]
    let after : List UInt8 := [0xAC, 0x22, 0x0A, 0x47, 0x20, 0x2F, 0x37]
    let p := run b .key 1 (before ++ lineFeed :: (line ++ lineFeed :: after))
    lineFeed ∉ line ∧ p.sink.text = "G:/0\nG:/\uFFFD\nG:/0\n".toList ∧ p.feed.accepted = 3 ∧
      p.feed.skipped = 1 := by
  intro b before line after p
  obtain ⟨outcome, -, apart⟩ := text_append_of_outcome b .key before after
  have bare : lineFeed ∉ line := by decide
  obtain ⟨text, accepted, skipped⟩ :=
    apart line bare p _ _ (outcome _ 1 Nat.zero_lt_one) (outcome _ 1 Nat.zero_lt_one)
      (outcome _ 2 Nat.zero_lt_two)
  exact ⟨bare, text.trans (by decide), accepted.trans (by decide), skipped.trans (by decide)⟩

end Pipeline

end RequestKeys
