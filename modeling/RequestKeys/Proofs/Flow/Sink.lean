import Mathlib.Data.List.Induction
import RequestKeys.Proofs.Flow.Work
import RequestKeys.Proofs.Request.EventJson
import RequestKeys.Proofs.Text.Split

/-!
# What a sink writes

A sink writes one line for each event that is sent to it, in the order in which they are sent and
however sending and writing take turns (`Run.writeAll_eq`).  The lines of JSON objects have no
newline of their own, so each can be found again in the text and read as the event it was written
for.
-/

namespace RequestKeys.Sink

variable {format : Format} {capacity : Nat} {sent : List Event} {c d : Channel Event} {s t : Sink}

/-! ## Runs -/

/-- The runs of a sink whose channel holds at most `capacity` events, with the events that have been
sent: one more is sent where there is room for it, until the sender lets go, and the sink makes its
steps in between. -/
inductive Run (format : Format) (capacity : Nat) : List Event → Channel Event → Sink → Prop where
  | start : Run format capacity [] (.new capacity) (.start format)
  | send {sent : List Event} {c d : Channel Event} {s : Sink} {e : Event}
      (run : Run format capacity sent c s) (kept : c.senderOpen = true) (h : c.offer e = .sent d) :
      Run format capacity (sent ++ [e]) d s
  | close {sent : List Event} {c : Channel Event} {s : Sink} (run : Run format capacity sent c s) :
      Run format capacity sent c.closeSender s
  | step {sent : List Event} {c d : Channel Event} {s t : Sink}
      (run : Run format capacity sent c s) (h : s.step c = some (d, t)) :
      Run format capacity sent d t

/-- What a sink has written and what it has still to write are the lines of the events sent, and a
sink that has ended has nothing to write and receives no more. -/
structure Faithful (format : Format) (sent : List Event) (c : Channel Event) (s : Sink) : Prop where
  format_eq : s.format = format
  lines_eq : s.lines.reverse ++ c.queue.map format.line = sent.map format.line
  drained : s.ended = true → c.queue = [] ∧ c.receiverOpen = false

theorem Run.faithful (run : Run format capacity sent c s) : Faithful format sent c s := by
  induction run with
  | start => exact ⟨rfl, rfl, nofun⟩
  | send _ _ h ih =>
    obtain ⟨alive, -, rfl⟩ := Channel.offer_eq_sent_iff.1 h
    refine ⟨ih.format_eq, ?_, fun ended => ?_⟩
    · rw [List.map_append, List.map_append, ← ih.lines_eq, List.append_assoc]
    · exact absurd (alive.symm.trans (ih.drained ended).2) nofun
  | close _ ih => exact ⟨ih.format_eq, ih.lines_eq, ih.drained⟩
  | step _ h ih =>
    have move := Sink.step_eq_some_iff.1 h
    have lines := move.lines_append_queue
    rw [move.format_eq, ih.format_eq] at lines
    refine ⟨move.format_eq.trans ih.format_eq, lines.trans ih.lines_eq, ?_⟩
    cases move with
    | write going => exact fun ended => absurd (going.symm.trans ended) nofun
    | finish => exact fun _ => ⟨rfl, rfl⟩

/-- A sink that has ended has written the lines of all events that were sent, and nothing else. -/
theorem Run.writeAll_eq (run : Run format capacity sent c s) (ended : s.ended = true) :
    (s.written, s.text) = writeAll format sent := by
  have f := run.faithful
  have lines := f.lines_eq
  rw [(f.drained ended).1, List.map_nil, List.append_nil] at lines
  rw [written, text, writeAll, ← List.length_reverse, lines, List.length_map]

/-- A sink does not wait for a sender that has gone. -/
theorem ended_of_step_eq_none (released : c.senderOpen = false) (h : s.step c = none) :
    s.ended = true := by
  rcases step_eq_none_iff.1 h with ended | ⟨-, kept⟩
  · exact ended
  · exact absurd (kept.symm.trans released) nofun

/-- Any events can be sent to a sink, one after another. -/
theorem exists_run (format : Format) (room : 0 < capacity) (sent : List Event) :
    ∃ s, s.ended = false ∧ Run format capacity sent (.new capacity) s := by
  induction sent using List.reverseRecOn with
  | nil => exact ⟨_, rfl, .start⟩
  | append_singleton sent e ih =>
    obtain ⟨s, going, run⟩ := ih
    have offered : Run format capacity (sent ++ [e]) ⟨capacity, [e], true, true⟩ s :=
      run.send rfl (Channel.offer_eq_sent_iff.2 ⟨rfl, room, rfl⟩)
    have move : s.Move ⟨capacity, [e], true, true⟩ (.new capacity)
        { s with lines := s.format.line e :: s.lines } := .write going rfl
    exact ⟨{ s with lines := s.format.line e :: s.lines }, going,
      offered.step (step_eq_some_iff.2 move)⟩

theorem exists_run_ended (format : Format) (room : 0 < capacity) (sent : List Event) :
    ∃ c s, Run format capacity sent c s ∧ s.ended = true := by
  obtain ⟨s, going, run⟩ := exists_run format room sent
  exact ⟨_, _, run.close.step (step_eq_some_iff.2 (.finish going rfl rfl)), rfl⟩

/-! ## JSON lines -/

/-- The lines of JSON objects, taken apart at their newlines, are read as the events. -/
theorem pieces_writeAll_jsonl (sent : List Event) :
    Split.pieces '\n' (writeAll .jsonl sent).2 = sent.map Event.toJsonText ++ [[]] := by
  have lines : sent.map Format.jsonl.line = (sent.map Event.toJsonText).map (· ++ ['\n']) := by
    rw [List.map_map]
    rfl
  rw [writeAll, lines, Split.pieces_flatten_concat_iff]
  exact List.forall_mem_map.2 fun e _ => e.clear_toJsonText.newline_not_mem

/-- A sink that writes JSON objects ends after as many steps as there are events before it and one,
once no more are sent, and has then written one line for each event that was sent: cut at its
newlines the text gives the texts that are read as the events, in order.  No two events have the same
text, not even if one has no query and the other an empty one. -/
theorem map_ofJsonText_pieces (room : 0 < capacity) (sent : List Event) :
    (∃ c s, Run .jsonl capacity sent c s ∧ s.ended = true) ∧
    (∀ c s, Run .jsonl capacity sent c s →
      (∀ d t, s.step c = some (d, t) → t.work d.queue.length + 1 = s.work c.queue.length) ∧
      (c.senderOpen = false → s.step c = none → s.ended = true) ∧
      (s.ended = true → s.written = sent.length ∧
        ∃ lines, Split.pieces '\n' s.text = lines ++ [[]] ∧ lines.length = sent.length ∧
          lines.map Event.ofJsonText = sent.map .ok)) ∧
    ∀ d e : Event, d.toJsonText = e.toJsonText → d = e := by
  refine ⟨exists_run_ended .jsonl room sent, fun c s run => ⟨fun d t step => ?_,
    ended_of_step_eq_none, fun ended => ?_⟩, fun d e => Event.toJsonText_inj⟩
  · exact (step_eq_some_iff.1 step).work_add_one 0
  · have all := run.writeAll_eq ended
    refine ⟨congrArg Prod.fst all, sent.map Event.toJsonText, ?_, List.length_map _, ?_⟩
    · rw [show s.text = (writeAll .jsonl sent).2 from congrArg Prod.snd all, pieces_writeAll_jsonl]
    · rw [List.map_map]
      exact List.map_congr_left fun e _ => e.ofJsonText_toJsonText

/-- Two requests that differ in the query alone, with quotes, newlines and a control character. -/
theorem map_ofJsonText_pieces_two_queries :
    ∃ c s, Run .jsonl 1 [⟨['"', '\n'], ⟨['/', '\\'], none⟩, ['\x01']⟩,
        ⟨['"', '\n'], ⟨['/', '\\'], some []⟩, ['\x01']⟩] c s ∧ s.written = 2 ∧
      ∃ lines, Split.pieces '\n' s.text = lines ++ [[]] ∧ lines.length = 2 ∧
        lines.map Event.ofJsonText = [.ok ⟨['"', '\n'], ⟨['/', '\\'], none⟩, ['\x01']⟩,
          .ok ⟨['"', '\n'], ⟨['/', '\\'], some []⟩, ['\x01']⟩] := by
  obtain ⟨⟨c, s, run, ended⟩, runs, -⟩ := map_ofJsonText_pieces Nat.zero_lt_one
    [⟨['"', '\n'], ⟨['/', '\\'], none⟩, ['\x01']⟩, ⟨['"', '\n'], ⟨['/', '\\'], some []⟩, ['\x01']⟩]
  exact ⟨c, s, run, (runs c s run).2.2 ended⟩

end RequestKeys.Sink
