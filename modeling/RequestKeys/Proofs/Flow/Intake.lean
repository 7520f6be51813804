import Mathlib.Tactic.SplitIfs
import RequestKeys.Flow.Batch
import RequestKeys.Proofs.Flow.Moves

/-!
# The accounts of a feed

A feed reads its lines in order, counts those that hold no request and sends the requests in the
others, each counted when it has been sent.  `Ledger` says what the feed has read, sent and failed to
send, whatever its receiver does in between; and `Standing` that a send fails at most once, as the
feed ends with it.  So at the end all lines are counted, or those before the one whose request could
not be sent.
-/

namespace RequestKeys.Intake

variable {input : List UInt8} {capacity : Nat} {read : List (List UInt8)}
  {sent failed : List Event} {s t : Intake}

/-! ## Moves and runs -/

/-- What the receiver of a feed does in one action; one that finds nothing to receive or its end let
go changes nothing. -/
inductive Move (s : Intake) : Intake → Prop where
  | idle : Move s s
  | receive {e : Event} {rest : List Event} (alive : s.channel.receiverOpen = true)
      (head : s.channel.queue = e :: rest) :
      Move s { s with
        channel := { s.channel with queue := rest }, received := s.received ++ [e] }
  | drop (alive : s.channel.receiverOpen = true) :
      Move s { s with channel := s.channel.dropReceiver }

theorem move_act (s : Intake) (a : Action) : s.Move (s.act a).2 := by
  cases a with
  | receive =>
    simp only [act]
    split_ifs with gone
    · exact .idle
    · cases taken : s.channel.take with
      | item e d =>
        obtain ⟨rest, head, rfl⟩ := Channel.take_eq_item_iff.1 taken
        exact .receive (by simpa using gone) head
      | empty => exact .idle
      | closed => exact .idle
  | drop =>
    simp only [act]
    split_ifs with alive
    · exact .drop alive
    · exact .idle

theorem feed_move_of_advance (h : s.advance = some t) :
    ∃ channel feed, s.feed.Move s.channel channel feed ∧ t = { s with channel, feed } := by
  obtain ⟨⟨channel, feed⟩, step, rfl⟩ := Option.map_eq_some_iff.1 h
  exact ⟨channel, feed, Feed.step_eq_some_iff.1 step, rfl⟩

/-- The request whose send fails in the next step of the feed. -/
def failing (s : Intake) : List Event :=
  s.feed.holding.toList.filter fun e => s.channel.offer e matches .closed

theorem failing_of_idle (idle : s.feed.holding = none) : s.failing = [] := by
  rw [failing, idle]
  rfl

theorem failing_of_alive (alive : s.channel.receiverOpen = true) : s.failing = [] := by
  refine List.filter_eq_nil_iff.2 fun e _ => ?_
  cases offered : s.channel.offer e with
  | closed => exact absurd (alive.symm.trans (Channel.offer_eq_closed_iff.1 offered)) nofun
  | sent | full => nofun

theorem failing_of_gone (gone : s.channel.receiverOpen = false) :
    s.failing = s.feed.holding.toList := by
  refine List.filter_eq_self.2 fun e _ => ?_
  rw [Channel.offer_eq_closed_iff.2 gone]

/-- The runs over an input, with the requests whose send has failed and the states they lead to. -/
inductive Run (input : List UInt8) (capacity : Nat) : List Event → Intake → Prop where
  | start : Run input capacity [] (.start input capacity)
  | outside {failed : List Event} {s : Intake} (run : Run input capacity failed s) (a : Action) :
      Run input capacity failed (s.act a).2
  | inside {failed : List Event} {s t : Intake} (run : Run input capacity failed s)
      (h : s.advance = some t) : Run input capacity (failed ++ s.failing) t

theorem Reachable.exists_run (h : Reachable input capacity s) :
    ∃ failed, Run input capacity failed s := by
  induction h with
  | start => exact ⟨_, .start⟩
  | next _ step ih =>
    obtain ⟨failed, run⟩ := ih
    cases step with
    | outside a => exact ⟨_, run.outside a⟩
    | inside h => exact ⟨_, run.inside h⟩

theorem Reachable.act (h : Reachable input capacity s) (a : Action) :
    Reachable input capacity (s.act a).2 :=
  h.next (.outside s a)

theorem Reachable.settle (h : Reachable input capacity s) : Reachable input capacity s.settle := by
  suffices run : ∀ fuel s, Reachable input capacity s → Reachable input capacity (runFor fuel s) from
    run _ s h
  intro fuel
  induction fuel with
  | zero => exact fun s h => h
  | succ fuel ih =>
    intro s h
    rw [runFor]
    split
    next t advanced => exact ih t (h.next (.inside advanced))
    next => exact h

/-! ## How a feed stands -/

/-- A feed is still going, or it has ended, after its last line or with a send that failed. -/
inductive Standing (failed : List Event) (s : Intake) : Prop where
  | going (going : s.feed.ended = false) (kept : s.channel.senderOpen = true) (fine : failed = [])
  | exhausted (ended : s.feed.ended = true) (idle : s.feed.holding = none)
      (exhausted : s.feed.unread = []) (fine : failed = [])
  | refused (e : Event) (ended : s.feed.ended = true) (idle : s.feed.holding = none)
      (gone : s.channel.receiverOpen = false) (refused : failed = [e])

theorem Standing.act (d : Standing failed s) (h : s.Move t) : Standing failed t := by
  cases h with
  | idle => exact d
  | receive alive | drop alive =>
    cases d with
    | going going kept fine => exact .going going kept fine
    | exhausted ended idle exhausted fine => exact .exhausted ended idle exhausted fine
    | refused e ended idle gone => exact absurd (alive.symm.trans gone) nofun

theorem Standing.feed (d : Standing failed s) {channel : Channel Event} {feed : Feed}
    (move : s.feed.Move s.channel channel feed) :
    Standing (failed ++ s.failing) { s with channel, feed } := by
  cases d with
  | exhausted ended | refused e ended => exact absurd (move.going.symm.trans ended) nofun
  | going going kept fine =>
    rw [fine, List.nil_append]
    cases move with
    | send _ held alive => exact .going going kept (failing_of_alive alive)
    | @refuse e _ held gone =>
      exact .refused e rfl rfl gone (by rw [failing_of_gone gone, held]; rfl)
    | finish _ idle exhausted => exact .exhausted rfl idle exhausted (failing_of_idle idle)
    | read _ idle | skip _ idle => exact .going going kept (failing_of_idle idle)

theorem Run.standing (run : Run input capacity failed s) : Standing failed s := by
  induction run with
  | start => exact .going rfl rfl rfl
  | outside _ a ih => exact ih.act (move_act _ a)
  | inside _ h ih =>
    obtain ⟨channel, feed, move, rfl⟩ := feed_move_of_advance h
    exact ih.feed move

theorem Standing.fine_of_going (d : Standing failed s) (going : s.feed.ended = false) :
    failed = [] := by
  cases d with
  | going _ _ fine => exact fine
  | exhausted ended | refused e ended => exact absurd (going.symm.trans ended) nofun

theorem Standing.fine_of_alive (d : Standing failed s) (alive : s.channel.receiverOpen = true) :
    failed = [] := by
  cases d with
  | going _ _ fine | exhausted _ _ _ fine => exact fine
  | refused e _ _ gone => exact absurd (alive.symm.trans gone) nofun

theorem Standing.ended_of_released (d : Standing failed s) (released : s.channel.senderOpen = false) :
    s.feed.ended = true := by
  cases d with
  | going _ kept => exact absurd (kept.symm.trans released) nofun
  | exhausted ended | refused e ended => exact ended

/-! ## What a feed has read and sent -/

/-- The lines read, the requests sent and those whose send failed, as the counters and the channel of
a feed show them. -/
structure Ledger (input : List UInt8) (read : List (List UInt8)) (sent failed : List Event)
    (s : Intake) : Prop where
  lines_eq : Line.split input = read ++ Line.split s.feed.unread
  requests_eq : read.filterMap Line.read? = sent ++ failed ++ s.feed.holding.toList
  accepted_eq : s.feed.accepted = sent.length
  skipped_eq : s.feed.skipped = read.countP fun line => (Line.read? line).isNone
  received_append : s.channel.receiverOpen = true → s.received ++ s.channel.queue = sent
  received_prefix : s.received <+: sent
  last_eq : ∀ e ∈ failed ++ s.feed.holding.toList,
    ∃ before line, read = before ++ [line] ∧ Line.read? line = some e

theorem Ledger.act (l : Ledger input read sent failed s) (h : s.Move t) :
    Ledger input read sent failed t := by
  cases h with
  | idle => exact l
  | @receive e rest alive head =>
    have received : (s.received ++ [e]) ++ rest = sent := by
      rw [← l.received_append alive, head, List.append_assoc, List.singleton_append]
    exact { l with
      received_append := fun _ => received
      received_prefix := ⟨rest, received⟩ }
  | drop => exact { l with received_append := nofun }

theorem Ledger.feed (l : Ledger input read sent failed s) {channel : Channel Event} {feed : Feed}
    (move : s.feed.Move s.channel channel feed) (fine : failed = []) :
    ∃ read sent, Ledger input read sent (failed ++ s.failing) { s with channel, feed } := by
  subst fine
  have lines := l.lines_eq
  have requests := l.requests_eq
  cases move with
  | @send e _ held alive =>
    rw [held] at requests
    rw [failing_of_alive alive]
    exact ⟨read, sent ++ [e], { l with
      requests_eq := by simpa using requests
      accepted_eq := by rw [List.length_append, ← l.accepted_eq]; rfl
      received_append := fun _ => by
        rw [← l.received_append alive, List.append_assoc]
      received_prefix := l.received_prefix.trans (List.prefix_append _ _)
      last_eq := nofun }⟩
  | @refuse e _ held gone =>
    rw [held] at requests
    have last := l.last_eq
    rw [held] at last
    rw [failing_of_gone gone, held]
    exact ⟨read, sent, { l with
      requests_eq := by simpa using requests
      received_append := fun alive => absurd (alive.symm.trans gone) nofun
      last_eq := by simpa using last }⟩
  | finish _ idle =>
    rw [failing_of_idle idle]
    exact ⟨read, sent, { l with }⟩
  | @read line unread e _ idle next request =>
    rw [Line.split_of_next?_eq_some next] at lines
    rw [idle] at requests
    rw [failing_of_idle idle]
    exact ⟨read ++ [line], sent, { l with
      lines_eq := by rw [lines, List.append_assoc]; rfl
      requests_eq := by simp [requests, request]
      skipped_eq := by simp [l.skipped_eq, request]
      last_eq := fun e' he => by
        have same : e' = e := List.mem_singleton.1 he
        exact ⟨read, line, rfl, same ▸ request⟩ }⟩
  | @skip line unread _ idle next blank =>
    rw [Line.split_of_next?_eq_some next] at lines
    rw [failing_of_idle idle]
    exact ⟨read ++ [line], sent, { l with
      lines_eq := by rw [lines, List.append_assoc]; rfl
      requests_eq := by simp [requests, blank]
      skipped_eq := by simp [l.skipped_eq, blank]
      last_eq := by simp [idle] }⟩

theorem Run.ledger (run : Run input capacity failed s) :
    ∃ read sent, Ledger input read sent failed s := by
  induction run with
  | start =>
    exact ⟨[], [], {
      lines_eq := rfl
      requests_eq := rfl
      accepted_eq := rfl
      skipped_eq := rfl
      received_append := fun _ => rfl
      received_prefix := List.nil_prefix
      last_eq := nofun }⟩
  | outside _ a ih =>
    obtain ⟨read, sent, l⟩ := ih
    exact ⟨read, sent, l.act (move_act _ a)⟩
  | inside run h ih =>
    obtain ⟨read, sent, l⟩ := ih
    obtain ⟨channel, feed, move, rfl⟩ := feed_move_of_advance h
    exact l.feed move (run.standing.fine_of_going move.going)

/-! ## At the end -/

theorem length_filterMap_add_countP (lines : List (List UInt8)) :
    (lines.filterMap Line.read?).length + lines.countP (fun line => (Line.read? line).isNone) =
      lines.length := by
  rw [List.length_filterMap_eq_countP,
    List.length_eq_countP_add_countP (fun line => (Line.read? line).isSome)]
  congr 1
  refine List.countP_congr fun line _ => ?_
  cases Line.read? line <;> simp

/-- A feed has counted the lines that it has read, but for the one whose request it holds or could
not send. -/
theorem Ledger.counted_eq (l : Ledger input read sent failed s) :
    s.feed.accepted + s.feed.skipped + failed.length + s.feed.holding.toList.length =
      read.length := by
  have requests := congrArg List.length l.requests_eq
  simp only [List.length_append] at requests
  have lines := length_filterMap_add_countP read
  rw [l.accepted_eq, l.skipped_eq]
  omega

theorem Ledger.sent_prefix (l : Ledger input read sent failed s) : sent <+: Batch.requests input := by
  refine ⟨failed ++ s.feed.holding.toList ++ (Line.split s.feed.unread).filterMap Line.read?, ?_⟩
  rw [Batch.requests, l.lines_eq, List.filterMap_append, l.requests_eq]
  simp only [List.append_assoc]

/-- After the last line all of them are counted. -/
theorem Ledger.of_exhausted (l : Ledger input read sent [] s) (idle : s.feed.holding = none)
    (exhausted : s.feed.unread = []) :
    sent = Batch.requests input ∧ s.feed.accepted + s.feed.skipped = (Line.split input).length := by
  have lines := l.lines_eq
  rw [exhausted, Line.split, List.append_nil] at lines
  have requests := l.requests_eq
  have counted := l.counted_eq
  rw [idle, ← lines] at requests counted
  exact ⟨by simpa [Batch.requests] using requests.symm, by simpa using counted⟩

/-- When a send has failed, the lines before that of its request are counted. -/
theorem Ledger.of_refused {e : Event} (l : Ledger input read sent [e] s)
    (idle : s.feed.holding = none) :
    ∃ before line, Line.split input = before ++ line :: Line.split s.feed.unread ∧
      Line.read? line = some e ∧
      s.feed.accepted = (before.filterMap Line.read?).length ∧
      s.feed.skipped = before.countP fun line => (Line.read? line).isNone := by
  obtain ⟨before, line, rfl, request⟩ := l.last_eq e (by simp)
  have requests := l.requests_eq
  have skipped := l.skipped_eq
  rw [idle] at requests
  simp only [List.filterMap_append, List.filterMap_cons, request, List.filterMap_nil,
    Option.toList_none, List.append_nil, List.append_cancel_right_eq] at requests
  refine ⟨before, line, ?_, request, ?_, ?_⟩
  · rw [l.lines_eq, List.append_assoc, List.singleton_append]
  · rw [l.accepted_eq, requests]
  · simpa [request] using skipped

theorem act_receive_eq_disconnected (h : (s.act .receive).1 = .disconnected) :
    s.channel.receiverOpen = true ∧ s.channel.queue = [] ∧ s.channel.senderOpen = false := by
  simp only [act] at h
  split_ifs at h with gone
  cases taken : s.channel.take with
  | item e channel => simp [taken] at h
  | empty => simp [taken] at h
  | closed => exact ⟨by simpa using gone, Channel.take_eq_closed_iff.1 taken⟩

/-! ## The main statement -/

/-- While somebody receives, the requests in the lines read so far are those received, in the channel
and in the hands of the feed, in this order, and the feed has counted the first two and all lines
without a request.  At the end either all lines are counted and, if somebody has received all along,
all requests received or in the channel; or one send has failed, and the lines before that of its
request are counted. -/
theorem counted_of_reachable (h : Reachable input capacity s) :
    (∃ failed, Run input capacity failed s) ∧
    ∀ failed, Run input capacity failed s →
      (s.channel.receiverOpen = true → failed = [] ∧
        ∃ read, Line.split input = read ++ Line.split s.feed.unread ∧
          s.received ++ s.channel.queue ++ s.feed.holding.toList = read.filterMap Line.read? ∧
          s.feed.accepted = s.received.length + s.channel.queue.length ∧
          s.feed.skipped = read.countP fun line => (Line.read? line).isNone) ∧
      s.received <+: Batch.requests input ∧
      (s.feed.ended = true → s.channel.receiverOpen = true →
        s.received ++ s.channel.queue = Batch.requests input) ∧
      ((s.act .receive).1 = .disconnected →
        s.feed.ended = true ∧ s.received = Batch.requests input) ∧
      (s.feed.ended = true →
        failed = [] ∧ s.feed.accepted + s.feed.skipped = (Line.split input).length ∨
        ∃ e before line, failed = [e] ∧ Line.read? line = some e ∧
          Line.split input = before ++ line :: Line.split s.feed.unread ∧
          s.feed.accepted = (before.filterMap Line.read?).length ∧
          s.feed.skipped = (before.countP fun line => (Line.read? line).isNone) ∧
          s.feed.accepted + s.feed.skipped = before.length) := by
  refine ⟨h.exists_run, fun failed run => ?_⟩
  obtain ⟨read, sent, l⟩ := run.ledger
  have complete : s.feed.ended = true → s.channel.receiverOpen = true →
      s.received ++ s.channel.queue = Batch.requests input := by
    intro ended alive
    cases run.standing with
    | going going => exact absurd (going.symm.trans ended) nofun
    | exhausted _ idle exhausted fine =>
      subst fine
      rw [l.received_append alive, (l.of_exhausted idle exhausted).1]
    | refused e _ _ gone => exact absurd (alive.symm.trans gone) nofun
  refine ⟨fun alive => ?_, l.received_prefix.trans l.sent_prefix, complete, fun disconnected => ?_,
    fun ended => ?_⟩
  · have fine := run.standing.fine_of_alive alive
    subst fine
    refine ⟨rfl, read, l.lines_eq, ?_, ?_, l.skipped_eq⟩
    · rw [l.received_append alive, l.requests_eq, List.append_nil]
    · rw [l.accepted_eq, ← l.received_append alive, List.length_append]
  · obtain ⟨alive, empty, released⟩ := act_receive_eq_disconnected disconnected
    have ended := run.standing.ended_of_released released
    have received := complete ended alive
    rw [empty, List.append_nil] at received
    exact ⟨ended, received⟩
  · cases run.standing with
    | going going => exact absurd (going.symm.trans ended) nofun
    | exhausted _ idle exhausted fine =>
      subst fine
      exact .inl ⟨rfl, (l.of_exhausted idle exhausted).2⟩
    | refused e _ idle gone refused =>
      subst refused
      obtain ⟨before, line, lines, request, accepted, skipped⟩ := l.of_refused idle
      refine .inr ⟨e, before, line, rfl, request, lines, accepted, skipped, ?_⟩
      rw [accepted, skipped, length_filterMap_add_countP]

/-- The receiver takes one of three requests and goes away when the third waits for room: the lines
before that request are counted, one of them without a request. -/
theorem counted_of_reachable_dropped :
    let input : List UInt8 := [0x47, 0x20, 0x61, 0x0A, 0xFF, 0x0A, 0x47, 0x20, 0x62, 0x0A, 0x47, 0x20,
      0x63, 0x0A, 0xFF]
    let waiting := ((start input 1).settle.act .receive).2.settle
    let s := (waiting.act .drop).2.settle
    waiting.feed.holding.isSome = true ∧ s.feed.ended = true ∧ s.received.length = 1 ∧
      ∃ e before line, Run input 1 [e] s ∧ Line.read? line = some e ∧
        Line.split input = before ++ line :: Line.split s.feed.unread ∧ before.length = 3 := by
  intro input waiting s
  have h : Reachable input 1 s := ((((Reachable.start.settle).act _).settle).act _).settle
  have ended : s.feed.ended = true := by decide
  obtain ⟨⟨failed, run⟩, accounts⟩ := counted_of_reachable h
  obtain ⟨-, -, -, -, at_end⟩ := accounts failed run
  refine ⟨by decide, ended, by decide, ?_⟩
  rcases at_end ended with ⟨-, counted⟩ | ⟨e, before, line, rfl, request, lines, -, -, counted⟩
  · exact absurd counted (by decide)
  · exact ⟨e, before, line, run, request, lines, counted.symm.trans (by decide)⟩

end RequestKeys.Intake
