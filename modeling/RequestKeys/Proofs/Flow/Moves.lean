import Mathlib.Tactic.SplitIfs
import RequestKeys.Flow.Feed
import RequestKeys.Flow.Sink
import RequestKeys.Flow.Stage

/-!
# The moves of the tasks

Each task makes few kinds of steps.  `Feed.Move`, `Stage.Move` and `Sink.Move` list them, each with
its guards and its whole effect, and `step_eq_some_iff` says that the list is complete; nothing
after this file unfolds a `step`.  The second half states what every move conserves: the events on
their way through a task, in order, and the balance between its counter and the events ahead of it.
-/

namespace RequestKeys

/-! ## Channels -/

attribute [ext] Channel

namespace Channel

variable {α : Type} {c d : Channel α} {a : α}

theorem offer_eq_sent_iff :
    c.offer a = .sent d ↔ c.receiverOpen = true ∧ c.queue.length < c.capacity ∧
      d = { c with queue := c.queue ++ [a] } := by
  unfold offer
  cases c.receiverOpen
  · simp
  · by_cases room : c.queue.length < c.capacity <;> simp [room, eq_comm]

theorem offer_eq_full_iff :
    c.offer a = .full ↔ c.receiverOpen = true ∧ c.capacity ≤ c.queue.length := by
  unfold offer
  cases c.receiverOpen
  · simp
  · by_cases room : c.queue.length < c.capacity <;> simp [room]
    omega

theorem offer_eq_closed_iff : c.offer a = .closed ↔ c.receiverOpen = false := by
  unfold offer
  cases c.receiverOpen
  · simp
  · by_cases room : c.queue.length < c.capacity <;> simp [room]

theorem take_eq_item_iff :
    c.take = .item a d ↔ ∃ rest, c.queue = a :: rest ∧ d = { c with queue := rest } := by
  unfold take
  cases c.queue with
  | nil => cases c.senderOpen <;> simp
  | cons b rest =>
    simp only [Taken.item.injEq, List.cons.injEq]
    constructor
    · rintro ⟨rfl, rfl⟩
      exact ⟨rest, ⟨rfl, rfl⟩, rfl⟩
    · rintro ⟨_, ⟨rfl, rfl⟩, rfl⟩
      exact ⟨rfl, rfl⟩

theorem take_eq_empty_iff : c.take = .empty ↔ c.queue = [] ∧ c.senderOpen = true := by
  unfold take
  cases c.queue with
  | nil => cases c.senderOpen <;> simp
  | cons b rest => simp

theorem take_eq_closed_iff : c.take = .closed ↔ c.queue = [] ∧ c.senderOpen = false := by
  unfold take
  cases c.queue with
  | nil => cases c.senderOpen <;> simp
  | cons b rest => simp

end Channel

/-! ## Lines -/

namespace Line

variable {line unread rest : List UInt8}

theorem split_of_cut_eq_some (h : Split.cut lineFeed unread = some (line, rest)) :
    split unread = line :: split rest := by
  induction unread generalizing line with
  | nil => simp [Split.cut] at h
  | cons b bs ih =>
    rw [Split.cut] at h
    rw [split]
    split_ifs at h with hb
    · obtain ⟨rfl, rfl⟩ := Prod.mk.inj (Option.some.inj h)
      rw [if_pos hb]
    · obtain ⟨⟨head, tail⟩, cut, joined⟩ := Option.map_eq_some_iff.1 h
      obtain ⟨rfl, rfl⟩ := Prod.mk.inj joined
      rw [if_neg hb, ih cut]

theorem split_of_cut_eq_none (h : Split.cut lineFeed unread = none) (hne : unread ≠ []) :
    split unread = [unread] := by
  induction unread with
  | nil => exact absurd rfl hne
  | cons b bs ih =>
    rw [Split.cut] at h
    rw [split]
    split_ifs at h with hb
    rw [if_neg hb]
    by_cases last : bs = []
    · rw [last, split]
    · rw [ih (Option.map_eq_none_iff.1 h) last]

theorem next?_eq_none_iff : next? unread = none ↔ unread = [] := by
  simp [next?]

/-- The lines of an input are those that are read from it one after another. -/
theorem split_of_next?_eq_some (h : next? unread = some (line, rest)) :
    split unread = line :: split rest := by
  unfold next? at h
  split_ifs at h with exhausted
  cases cut : Split.cut lineFeed unread with
  | some parts =>
    rw [cut] at h
    exact split_of_cut_eq_some (cut.trans h)
  | none =>
    rw [cut] at h
    obtain ⟨rfl, rfl⟩ := Prod.mk.inj (Option.some.inj h)
    exact split_of_cut_eq_none cut (by simpa using exhausted)

end Line

/-! ## The feed -/

namespace Feed

/-- What a feed does in one step into `c`. -/
inductive Move (c : Channel Event) (f : Feed) : Channel Event → Feed → Prop where
  | send {e : Event} (going : f.ended = false) (held : f.holding = some e)
      (alive : c.receiverOpen = true) (room : c.queue.length < c.capacity) :
      Move c f { c with queue := c.queue ++ [e] }
        { f with holding := none, accepted := f.accepted + 1 }
  | refuse {e : Event} (going : f.ended = false) (held : f.holding = some e)
      (gone : c.receiverOpen = false) :
      Move c f c.closeSender { f with holding := none, ended := true }
  | finish (going : f.ended = false) (idle : f.holding = none) (exhausted : f.unread = []) :
      Move c f c.closeSender { f with ended := true }
  | read {line unread : List UInt8} {e : Event} (going : f.ended = false)
      (idle : f.holding = none) (next : Line.next? f.unread = some (line, unread))
      (request : Line.read? line = some e) : Move c f c { f with unread, holding := some e }
  | skip {line unread : List UInt8} (going : f.ended = false) (idle : f.holding = none)
      (next : Line.next? f.unread = some (line, unread)) (blank : Line.read? line = none) :
      Move c f c { f with unread, skipped := f.skipped + 1 }

variable {c c' : Channel Event} {f f' : Feed}

theorem step_eq_some_iff : f.step c = some (c', f') ↔ f.Move c c' f' := by
  constructor
  · intro h
    rcases f with ⟨unread, _ | e, accepted, skipped, _ | _⟩
    case none.true | some.true => simp [step] at h
    case some.false =>
      cases offered : c.offer e with
      | sent d =>
        obtain ⟨alive, room, rfl⟩ := Channel.offer_eq_sent_iff.1 offered
        simp only [step, offered, Bool.false_eq_true, if_false, Option.some.injEq,
          Prod.mk.injEq] at h
        obtain ⟨rfl, rfl⟩ := h
        exact .send rfl rfl alive room
      | full => simp [step, offered] at h
      | closed =>
        simp only [step, offered, Bool.false_eq_true, if_false, Option.some.injEq,
          Prod.mk.injEq] at h
        obtain ⟨rfl, rfl⟩ := h
        exact .refuse rfl rfl (Channel.offer_eq_closed_iff.1 offered)
    case none.false =>
      cases next : Line.next? unread with
      | none =>
        simp only [step, next, Bool.false_eq_true, if_false, Option.some.injEq,
          Prod.mk.injEq] at h
        obtain ⟨rfl, rfl⟩ := h
        exact .finish rfl rfl (Line.next?_eq_none_iff.1 next)
      | some parts =>
        obtain ⟨line, rest⟩ := parts
        cases read : Line.read? line with
        | some e =>
          simp only [step, next, read, Bool.false_eq_true, if_false, Option.some.injEq,
            Prod.mk.injEq] at h
          obtain ⟨rfl, rfl⟩ := h
          exact .read rfl rfl next read
        | none =>
          simp only [step, next, read, Bool.false_eq_true, if_false, Option.some.injEq,
            Prod.mk.injEq] at h
          obtain ⟨rfl, rfl⟩ := h
          exact .skip rfl rfl next read
  · intro h
    cases h with
    | send going held alive room =>
      simp [step, going, held, Channel.offer_eq_sent_iff.2 ⟨alive, room, rfl⟩]
    | refuse going held gone => simp [step, going, held, Channel.offer_eq_closed_iff.2 gone]
    | finish going idle exhausted =>
      simp [step, going, idle, Line.next?_eq_none_iff.2 exhausted]
    | read going idle next request => simp [step, going, idle, next, request]
    | skip going idle next blank => simp [step, going, idle, next, blank]

/-- A feed makes no step after its end and while the request in its hands has no room. -/
theorem step_eq_none_iff :
    f.step c = none ↔
      f.ended = true ∨
        f.holding.isSome = true ∧ c.receiverOpen = true ∧ c.capacity ≤ c.queue.length := by
  rcases f with ⟨unread, _ | e, accepted, skipped, _ | _⟩
  case none.true | some.true => simp [step]
  case none.false =>
    cases next : Line.next? unread with
    | none => simp [step, next]
    | some parts => cases read : Line.read? parts.1 <;> simp [step, next, read]
  case some.false =>
    cases offered : c.offer e with
    | sent d =>
      obtain ⟨-, room, -⟩ := Channel.offer_eq_sent_iff.1 offered
      simp [step, offered, room]
    | full => simp [step, offered, Channel.offer_eq_full_iff.1 offered]
    | closed => simp [step, offered, Channel.offer_eq_closed_iff.1 offered]

theorem Move.going (h : f.Move c c' f') : f.ended = false := by
  cases h <;> assumption

theorem Move.capacity_eq (h : f.Move c c' f') : c'.capacity = c.capacity := by
  cases h <;> rfl

theorem Move.receiverOpen_eq (h : f.Move c c' f') : c'.receiverOpen = c.receiverOpen := by
  cases h <;> rfl

/-- The requests that a feed has yet to send: the one it holds and those in the lines ahead. -/
def ahead (f : Feed) : List Event :=
  f.holding.toList ++ (Line.split f.unread).filterMap Line.read?

/-- How many lines ahead of a feed hold no request. -/
def blankAhead (f : Feed) : Nat :=
  (Line.split f.unread).countP fun line => (Line.read? line).isNone

theorem Move.queue_append_ahead (h : f.Move c c' f') (alive : c.receiverOpen = true) :
    c'.queue ++ f'.ahead = c.queue ++ f.ahead := by
  cases h with
  | send _ held => simp [ahead, held]
  | refuse _ _ gone =>
    rw [alive] at gone
    cases gone
  | finish => rfl
  | read _ idle next request => simp [ahead, idle, Line.split_of_next?_eq_some next, request]
  | skip _ idle next blank => simp [ahead, idle, Line.split_of_next?_eq_some next, blank]

/-- A feed counts what it puts into its channel. -/
theorem Move.accepted_add_length (h : f.Move c c' f') :
    f'.accepted + c.queue.length = f.accepted + c'.queue.length := by
  cases h with
  | send => simp; omega
  | refuse | finish | read | skip => rfl

theorem Move.skipped_add_blankAhead (h : f.Move c c' f') :
    f'.skipped + f'.blankAhead = f.skipped + f.blankAhead := by
  cases h with
  | send | refuse | finish => rfl
  | read _ _ next request => simp [blankAhead, Line.split_of_next?_eq_some next, request]
  | skip _ _ next blank => simp [blankAhead, Line.split_of_next?_eq_some next, blank]; omega

end Feed

/-! ## The stage -/

@[simp]
theorem Summary.count_received (s : Summary) (e : Event) :
    (s.count e).received = s.received + 1 := by
  unfold count
  split_ifs <;> rfl

theorem Summary.count_of_not_isKeyed (s : Summary) {e : Event} (h : e.isKeyed = false) :
    s.count e = { s with received := s.received + 1, normalized := s.normalized + 1 } := by
  simp [count, h]

namespace Stage

/-- What a stage with keys from `b` does in one step between `input` and `output`. -/
inductive Move (b : KeyBuilder) (input output : Channel Event) (s : Stage) :
    Channel Event → Channel Event → Stage → Prop where
  | take {e : Event} {rest : List Event} (running : s.phase = .running) (idle : s.holding = none)
      (head : input.queue = e :: rest) :
      Move b input output s { input with queue := rest } output
        { s with holding := some (b.assign e), summary := s.summary.count e }
  | deliver {e : Event} (running : s.phase = .running) (held : s.holding = some e)
      (alive : output.receiverOpen = true) (room : output.queue.length < output.capacity) :
      Move b input output s input { output with queue := output.queue ++ [e] }
        { s with holding := none, observed := s.observed + 1 }
  | refuse {e : Event} (running : s.phase = .running) (held : s.holding = some e)
      (gone : output.receiverOpen = false) :
      Move b input output s input output
        { s with holding := none, phase := .draining, refused := true }
  | drain (running : s.phase = .running) (idle : s.holding = none) (empty : input.queue = [])
      (closed : input.senderOpen = false) :
      Move b input output s input output { s with phase := .draining }
  | release (draining : s.phase = .draining) (kept : output.senderOpen = true) :
      Move b input output s input output.closeSender s
  | close (draining : s.phase = .draining) (released : output.senderOpen = false) :
      Move b input output s input.dropReceiver output { s with phase := .closed }

variable {b : KeyBuilder} {input input' output output' : Channel Event} {s s' : Stage}

theorem step_eq_some_iff :
    s.step b input output = some (input', output', s') ↔
      s.Move b input output input' output' s' := by
  constructor
  · intro h
    rcases s with ⟨_ | _ | _, holding, summary, observed, refused⟩
    case running =>
      rcases holding with _ | e
      case none =>
        cases taken : input.take with
        | item e d =>
          obtain ⟨rest, head, rfl⟩ := Channel.take_eq_item_iff.1 taken
          simp only [step, taken, Option.some.injEq, Prod.mk.injEq] at h
          obtain ⟨rfl, rfl, rfl⟩ := h
          exact .take rfl rfl head
        | empty => simp [step, taken] at h
        | closed =>
          obtain ⟨empty, closed⟩ := Channel.take_eq_closed_iff.1 taken
          simp only [step, taken, Option.some.injEq, Prod.mk.injEq] at h
          obtain ⟨rfl, rfl, rfl⟩ := h
          exact .drain rfl rfl empty closed
      case some =>
        cases offered : output.offer e with
        | sent d =>
          obtain ⟨alive, room, rfl⟩ := Channel.offer_eq_sent_iff.1 offered
          simp only [step, offered, Option.some.injEq, Prod.mk.injEq] at h
          obtain ⟨rfl, rfl, rfl⟩ := h
          exact .deliver rfl rfl alive room
        | full => simp [step, offered] at h
        | closed =>
          simp only [step, offered, Option.some.injEq, Prod.mk.injEq] at h
          obtain ⟨rfl, rfl, rfl⟩ := h
          exact .refuse rfl rfl (Channel.offer_eq_closed_iff.1 offered)
    case draining =>
      simp only [step] at h
      split_ifs at h with kept
      · simp only [Option.some.injEq, Prod.mk.injEq] at h
        obtain ⟨rfl, rfl, rfl⟩ := h
        exact .release rfl kept
      · simp only [Option.some.injEq, Prod.mk.injEq] at h
        obtain ⟨rfl, rfl, rfl⟩ := h
        exact .close rfl (eq_false_of_ne_true kept)
    case closed => simp [step] at h
  · intro h
    cases h with
    | take running idle head =>
      simp [step, running, idle, Channel.take_eq_item_iff.2 ⟨_, head, rfl⟩]
    | deliver running held alive room =>
      simp [step, running, held, Channel.offer_eq_sent_iff.2 ⟨alive, room, rfl⟩]
    | refuse running held gone =>
      simp [step, running, held, Channel.offer_eq_closed_iff.2 gone]
    | drain running idle empty closed =>
      simp [step, running, idle, Channel.take_eq_closed_iff.2 ⟨empty, closed⟩]
    | release draining kept => simp [step, draining, kept]
    | close draining released => simp [step, draining, released]

/-- A stage makes no step after its end, while it waits for an event, and while the event in its
hands has no room. -/
theorem step_eq_none_iff :
    s.step b input output = none ↔
      s.phase = .closed ∨ s.phase = .running ∧
        (s.holding = none ∧ input.queue = [] ∧ input.senderOpen = true ∨
          s.holding.isSome = true ∧ output.receiverOpen = true ∧
            output.capacity ≤ output.queue.length) := by
  rcases s with ⟨_ | _ | _, holding, summary, observed, refused⟩
  case running =>
    rcases holding with _ | e
    case none =>
      cases taken : input.take with
      | item e d =>
        obtain ⟨rest, head, -⟩ := Channel.take_eq_item_iff.1 taken
        simp [step, taken, head]
      | empty => simp [step, taken, Channel.take_eq_empty_iff.1 taken]
      | closed => simp [step, taken, Channel.take_eq_closed_iff.1 taken]
    case some =>
      cases offered : output.offer e with
      | sent d =>
        obtain ⟨-, room, -⟩ := Channel.offer_eq_sent_iff.1 offered
        simp [step, offered, room]
      | full => simp [step, offered, Channel.offer_eq_full_iff.1 offered]
      | closed => simp [step, offered, Channel.offer_eq_closed_iff.1 offered]
  case draining => cases kept : output.senderOpen <;> simp [step, kept]
  case closed => simp [step]

theorem Move.phase_ne_closed (h : s.Move b input output input' output' s') : s.phase ≠ .closed := by
  cases h with
  | take running | deliver running | refuse running | drain running => simp [running]
  | release draining | close draining => simp [draining]

theorem Move.capacity_eq (h : s.Move b input output input' output' s') :
    input'.capacity = input.capacity ∧ output'.capacity = output.capacity := by
  cases h <;> exact ⟨rfl, rfl⟩

theorem Move.receiverOpen_eq (h : s.Move b input output input' output' s') :
    output'.receiverOpen = output.receiverOpen := by
  cases h <;> rfl

/-- A stage takes events from the front of its input only. -/
theorem Move.queue_suffix (h : s.Move b input output input' output' s') :
    input'.queue <:+ input.queue := by
  cases h with
  | take _ _ head => exact head ▸ List.suffix_cons _ _
  | deliver | refuse | drain | release => exact List.suffix_rfl
  | close => exact List.nil_suffix

/-- A move keeps the events between the two ends of a stage, those behind it with their keys, as
long as nothing is left in the input when it lets go of it. -/
theorem Move.events_eq (h : s.Move b input output input' output' s')
    (alive : s.phase = .running → output.receiverOpen = true)
    (drained : s.phase = .draining → input.queue = []) :
    output'.queue ++ s'.holding.toList ++ input'.queue.map b.assign =
      output.queue ++ s.holding.toList ++ input.queue.map b.assign := by
  cases h with
  | take _ idle head => simp [idle, head]
  | deliver _ held => simp [held]
  | refuse running _ gone =>
    -- The only move that loses an event needs a receiver that is gone.
    rw [alive running] at gone
    cases gone
  | drain | release => rfl
  | close draining => simp [Channel.dropReceiver, drained draining]

theorem Move.received_add_length (h : s.Move b input output input' output' s')
    (drained : s.phase = .draining → input.queue = []) :
    s'.summary.received + input'.queue.length = s.summary.received + input.queue.length := by
  cases h with
  | take _ _ head => simp [head]; omega
  | deliver | refuse | drain | release => rfl
  | close draining => simp [Channel.dropReceiver, drained draining]

end Stage

/-! ## The sink -/

namespace Sink

/-- What a sink does in one step from `c`. -/
inductive Move (c : Channel Event) (s : Sink) : Channel Event → Sink → Prop where
  | write {e : Event} {rest : List Event} (going : s.ended = false) (head : c.queue = e :: rest) :
      Move c s { c with queue := rest } { s with lines := s.format.line e :: s.lines }
  | finish (going : s.ended = false) (empty : c.queue = []) (closed : c.senderOpen = false) :
      Move c s c.dropReceiver { s with ended := true }

variable {c c' : Channel Event} {s s' : Sink}

theorem step_eq_some_iff : s.step c = some (c', s') ↔ s.Move c c' s' := by
  constructor
  · intro h
    rcases s with ⟨format, lines, _ | _⟩
    case false =>
      cases taken : c.take with
      | item e d =>
        obtain ⟨rest, head, rfl⟩ := Channel.take_eq_item_iff.1 taken
        simp only [step, taken, Bool.false_eq_true, if_false, Option.some.injEq,
          Prod.mk.injEq] at h
        obtain ⟨rfl, rfl⟩ := h
        exact .write rfl head
      | empty => simp [step, taken] at h
      | closed =>
        obtain ⟨empty, closed⟩ := Channel.take_eq_closed_iff.1 taken
        simp only [step, taken, Bool.false_eq_true, if_false, Option.some.injEq,
          Prod.mk.injEq] at h
        obtain ⟨rfl, rfl⟩ := h
        exact .finish rfl empty closed
    case true => simp [step] at h
  · intro h
    cases h with
    | write going head => simp [step, going, Channel.take_eq_item_iff.2 ⟨_, head, rfl⟩]
    | finish going empty closed =>
      simp [step, going, Channel.take_eq_closed_iff.2 ⟨empty, closed⟩]

/-- A sink makes no step after its end and while nothing has come. -/
theorem step_eq_none_iff :
    s.step c = none ↔ s.ended = true ∨ c.queue = [] ∧ c.senderOpen = true := by
  rcases s with ⟨format, lines, _ | _⟩
  case false =>
    cases taken : c.take with
    | item e d =>
      obtain ⟨rest, head, -⟩ := Channel.take_eq_item_iff.1 taken
      simp [step, taken, head]
    | empty => simp [step, taken, Channel.take_eq_empty_iff.1 taken]
    | closed => simp [step, taken, Channel.take_eq_closed_iff.1 taken]
  case true => simp [step]

theorem Move.capacity_eq (h : s.Move c c' s') : c'.capacity = c.capacity := by
  cases h <;> rfl

theorem Move.senderOpen_eq (h : s.Move c c' s') : c'.senderOpen = c.senderOpen := by
  cases h <;> rfl

theorem Move.format_eq (h : s.Move c c' s') : s'.format = s.format := by
  cases h <;> rfl

theorem Move.lines_append_queue (h : s.Move c c' s') :
    s'.lines.reverse ++ c'.queue.map s'.format.line =
      s.lines.reverse ++ c.queue.map s.format.line := by
  cases h with
  | write _ head => simp [head]
  | finish _ empty => simp [Channel.dropReceiver, empty]

end Sink

end RequestKeys
