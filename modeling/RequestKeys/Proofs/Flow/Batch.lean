import RequestKeys.Flow.Batch
import RequestKeys.Proofs.Flow.Pipeline

/-!
# A pipeline computes the batch

In each state of a pipeline the lines written and the events that have yet to be written, with their
keys, spell the batch of the whole input, and each counter together with what is ahead of it counts
the requests (`Balanced`).  At the end nothing is ahead, so neither the capacities nor the order of
the steps has an influence on the text and the counts.
-/

namespace RequestKeys

/-! ## The batch -/

theorem Line.isKeyed_of_read? {line : List UInt8} {e : Event} (h : Line.read? line = some e) :
    e.isKeyed = false := by
  unfold Line.read? Line.parse? at h
  split at h
  · split_ifs at h
    rw [← Option.some.inj h]
    rfl
  · cases h

theorem KeyBuilder.assign_of_not_isKeyed (b : KeyBuilder) {e : Event} (h : e.isKeyed = false) :
    b.assign e = { e with key := b.key e } := by
  simp [assign, h]

namespace Batch

theorem isKeyed_of_mem_requests {input : List UInt8} {e : Event} (h : e ∈ requests input) :
    e.isKeyed = false := by
  obtain ⟨line, _, read⟩ := List.mem_filterMap.1 h
  exact Line.isKeyed_of_read? read

theorem keyed_eq_map_assign (b : KeyBuilder) (input : List UInt8) :
    keyed b input = (requests input).map b.assign :=
  List.map_congr_left fun _ h => (b.assign_of_not_isKeyed (isKeyed_of_mem_requests h)).symm

theorem length_keyed (b : KeyBuilder) (input : List UInt8) :
    (keyed b input).length = (requests input).length :=
  List.length_map _

end Batch

namespace Pipeline

variable {builder : KeyBuilder} {format : Format} {inCapacity outCapacity : Nat}
  {input : List UInt8} {p q : Pipeline}

/-! ## What is ahead -/

/-- The requests that the stage has yet to take. -/
def coming (p : Pipeline) : List Event := p.requests.queue ++ p.feed.ahead

/-- The events that the sink has yet to write. -/
def pending (builder : KeyBuilder) (p : Pipeline) : List Event :=
  p.keyed.queue ++ p.stage.holding.toList ++ p.coming.map builder.assign

theorem pending_eq_append (builder : KeyBuilder) (p : Pipeline) :
    p.pending builder =
      p.keyed.queue ++ p.stage.holding.toList ++ p.requests.queue.map builder.assign ++
        p.feed.ahead.map builder.assign := by
  simp [pending, coming]

/-- What was done and what is ahead are together what the batch does. -/
structure Balanced (builder : KeyBuilder) (format : Format) (input : List UInt8) (p : Pipeline) :
    Prop where
  format_eq : p.sink.format = format
  lines_eq : p.sink.lines.reverse ++ (p.pending builder).map format.line =
    (Batch.keyed builder input).map format.line
  accepted_add : p.feed.accepted + p.feed.ahead.length = (Batch.requests input).length
  received_add : p.stage.summary.received + p.coming.length = (Batch.requests input).length
  skipped_add : p.feed.skipped + p.feed.blankAhead = Batch.skipped input
  unkeyed : ∀ e ∈ p.coming, e.isKeyed = false
  normalized_eq : p.stage.summary.normalized = p.stage.summary.received
  passedThrough_eq : p.stage.summary.passedThrough = 0

theorem balanced_start (builder : KeyBuilder) (format : Format) (inCapacity outCapacity : Nat)
    (input : List UInt8) :
    (start builder format inCapacity outCapacity input).Balanced builder format input where
  format_eq := rfl
  lines_eq := by
    rw [Batch.keyed_eq_map_assign]
    rfl
  accepted_add := Nat.zero_add _
  received_add := Nat.zero_add _
  skipped_add := Nat.zero_add _
  unkeyed _ h := Batch.isKeyed_of_mem_requests h
  normalized_eq := rfl
  passedThrough_eq := rfl

theorem Balanced.feed (m : p.Balanced builder format input) (o : p.Orderly builder)
    {requests : Channel Event} {feed : Feed} (move : p.feed.Move p.requests requests feed) :
    ({ p with requests, feed } : Pipeline).Balanced builder format input := by
  have moved : requests.queue ++ feed.ahead = p.coming :=
    move.queue_append_ahead (o.requests_alive move.going)
  have lengths := congrArg List.length moved
  have counted := move.accepted_add_length
  have before := m.accepted_add
  simp only [coming, List.length_append] at lengths
  exact { m with
    lines_eq := by
      have lines := m.lines_eq
      rw [pending, ← moved] at lines
      exact lines
    accepted_add := by
      show feed.accepted + feed.ahead.length = _
      omega
    received_add := by
      have received := m.received_add
      rw [← moved] at received
      exact received
    skipped_add := move.skipped_add_blankAhead.trans m.skipped_add
    unkeyed := by
      have unkeyed := m.unkeyed
      rw [← moved] at unkeyed
      exact unkeyed }

theorem Balanced.stage (m : p.Balanced builder format input) (o : p.Orderly builder)
    {requests keyed : Channel Event} {stage : Stage}
    (move : p.stage.Move p.builder p.requests p.keyed requests keyed stage) :
    ({ p with requests, keyed, stage } : Pipeline).Balanced builder format input := by
  rw [o.builder_eq] at move
  have moved := move.events_eq o.keyed_alive o.requests_drained
  have counted := move.received_add_length o.requests_drained
  have before := m.received_add
  have taken : stage.summary.normalized = stage.summary.received ∧
      stage.summary.passedThrough = 0 := by
    cases move with
    | take _ _ head =>
      have unkeyed := m.unkeyed _ (List.mem_append_left _ (head ▸ List.mem_cons_self))
      simp [Summary.count_of_not_isKeyed _ unkeyed, m.normalized_eq, m.passedThrough_eq]
    | deliver | refuse | drain | release | close => exact ⟨m.normalized_eq, m.passedThrough_eq⟩
  exact { m with
    lines_eq := by
      rw [pending_eq_append]
      show p.sink.lines.reverse ++ (keyed.queue ++ stage.holding.toList ++
        requests.queue.map builder.assign ++ p.feed.ahead.map builder.assign).map format.line = _
      rw [moved, ← pending_eq_append]
      exact m.lines_eq
    received_add := by
      simp only [coming, List.length_append] at before ⊢
      omega
    unkeyed := fun e he => m.unkeyed e <| by
      rcases List.mem_append.1 he with queued | ahead
      · exact List.mem_append_left _ (move.queue_suffix.subset queued)
      · exact List.mem_append_right _ ahead
    normalized_eq := taken.1
    passedThrough_eq := taken.2 }

theorem Balanced.sink (m : p.Balanced builder format input) {keyed : Channel Event} {sink : Sink}
    (move : p.sink.Move p.keyed keyed sink) :
    ({ p with keyed, sink } : Pipeline).Balanced builder format input := by
  have moved := move.lines_append_queue
  rw [move.format_eq, m.format_eq] at moved
  exact { m with
    format_eq := move.format_eq.trans m.format_eq
    lines_eq := by
      have lines := m.lines_eq
      simp only [pending, List.map_append, ← List.append_assoc] at lines ⊢
      rw [moved]
      exact lines }

theorem Reachable.balanced (h : Reachable builder format inCapacity outCapacity input p) :
    p.Balanced builder format input := by
  induction h with
  | start => exact balanced_start builder format inCapacity outCapacity input
  | next h step ih =>
    cases step.move with
    | feed move => exact ih.feed h.orderly move
    | stage move => exact ih.stage h.orderly move
    | sink move => exact ih.sink move

/-! ## At the end -/

theorem Orderly.coming_eq_nil (o : p.Orderly builder) (ended : p.Ended) : p.coming = [] := by
  have drained := (o.stage_left (by simp [ended.2.1])).2.1
  obtain ⟨exhausted, idle⟩ := o.feed_ended ended.1
  simp [coming, Feed.ahead, drained, exhausted, idle, Line.split]

theorem Orderly.pending_eq_nil (o : p.Orderly builder) (ended : p.Ended) :
    p.pending builder = [] := by
  have held := (o.stage_left (by simp [ended.2.1])).2.2
  simp [pending, o.coming_eq_nil ended, (o.sink_ended ended.2.2).2, held]

theorem Balanced.lines_eq_of_ended (m : p.Balanced builder format input) (o : p.Orderly builder)
    (ended : p.Ended) : p.sink.lines.reverse = (Batch.keyed builder input).map format.line := by
  have lines := m.lines_eq
  rw [o.pending_eq_nil ended, List.map_nil, List.append_nil] at lines
  exact lines

/-- The text at the end is that of the batch. -/
theorem Reachable.text_eq_of_ended
    (h : Reachable builder format inCapacity outCapacity input p) (ended : p.Ended) :
    p.sink.text = Batch.output builder format input := by
  rw [Sink.text, h.balanced.lines_eq_of_ended h.orderly ended, Batch.output]

/-- However the tasks take turns and however little the channels hold, once all tasks have ended the
text is that of the batch, the feed has sent, the stage has keyed and the sink has written every
request, and the feed has skipped all other lines. -/
theorem text_eq_output_of_ended
    (h : Reachable builder format inCapacity outCapacity input p) (ended : p.Ended) :
    p.sink.text = Batch.output builder format input ∧
    p.feed.accepted = (Batch.requests input).length ∧
    p.stage.summary.received = (Batch.requests input).length ∧
    p.stage.summary.normalized = (Batch.requests input).length ∧
    p.stage.summary.passedThrough = 0 ∧
    p.sink.written = (Batch.requests input).length ∧
    p.feed.skipped = Batch.skipped input := by
  have m := h.balanced
  have o := h.orderly
  have lines := m.lines_eq_of_ended o ended
  have coming := o.coming_eq_nil ended
  obtain ⟨exhausted, idle⟩ := o.feed_ended ended.1
  have accepted := m.accepted_add
  have received := m.received_add
  have skipped := m.skipped_add
  simp only [Feed.ahead, Feed.blankAhead, exhausted, idle, coming, Line.split, Option.toList_none,
    List.filterMap_nil, List.append_nil, List.countP_nil, List.length_nil, Nat.add_zero]
    at accepted received skipped
  refine ⟨?_, accepted, received, m.normalized_eq.trans received, m.passedThrough_eq, ?_, skipped⟩
  · rw [Sink.text, lines, Batch.output]
  · rw [Sink.written, ← List.length_reverse, lines, List.length_map, Batch.length_keyed]

/-- A request whose key has a parameter, a line that is none, and one without a newline. -/
theorem text_eq_output_of_ended_three_lines :
    let b : KeyBuilder := ⟨⟨.all, []⟩, ['o', 'p']⟩
    let input : List UInt8 := [0x47, 0x45, 0x54, 0x20, 0x2F, 0x34, 0x32, 0x3F, 0x6F, 0x70, 0x3D,
      0x61, 0x0D, 0x0A, 0xFF, 0x0A, 0x47, 0x20, 0x2F]
    let p := run b .key 1 input
    p.Ended ∧ p.sink.text = "GET:/0:a\nG:/\n".toList ∧ p.feed.accepted = 2 ∧
      p.feed.skipped = 1 := by
  intro b input p
  have ended : p.Ended := ⟨by decide, by decide, by decide⟩
  obtain ⟨text, accepted, -, -, -, -, skipped⟩ :=
    text_eq_output_of_ended (reachable_run b .key 1 input) ended
  exact ⟨ended, text.trans (by decide), accepted.trans (by decide), skipped.trans (by decide)⟩

end Pipeline

end RequestKeys
