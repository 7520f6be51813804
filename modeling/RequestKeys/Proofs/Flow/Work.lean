import RequestKeys.Proofs.Flow.Moves

/-!
# The steps ahead of a task

What is ahead of a task says how many steps it still makes, whoever else moves in between: a feed
reads every line and sends every request, a stage takes and delivers every event, a sink writes every
event, and each has the steps of its end.  A move makes one of these steps, and a move that loses an
event saves some more (`Stage.Move.work_lt`).
-/

namespace RequestKeys

namespace Feed

variable {c c' : Channel Event} {f f' : Feed}

/-- The steps of a feed: one to read each line, one to send each request, and one to end. -/
def work (f : Feed) : Nat :=
  (Line.split f.unread).length + f.ahead.length + if f.ended then 0 else 1

theorem Move.work_add_one (h : f.Move c c' f') (alive : c.receiverOpen = true) :
    f'.work + 1 = f.work := by
  cases h with
  | send _ held =>
    simp only [work, ahead, held, Option.toList_none, Option.toList_some, List.nil_append,
      List.singleton_append, List.length_cons]
    omega
  | refuse _ _ gone =>
    rw [alive] at gone
    cases gone
  | finish going =>
    simp only [work, ahead, going, Bool.false_eq_true, if_true, if_false]
  | read _ idle next request =>
    simp only [work, ahead, idle, Line.split_of_next?_eq_some next, request, Option.toList_none,
      Option.toList_some, List.nil_append, List.singleton_append, List.length_cons,
      List.filterMap_cons]
    omega
  | skip _ idle next blank =>
    simp only [work, ahead, idle, Line.split_of_next?_eq_some next, blank, Option.toList_none,
      List.nil_append, List.length_cons, List.filterMap_cons]
    omega

end Feed

namespace Stage

variable {b : KeyBuilder} {input input' output output' : Channel Event} {s s' : Stage}

/-- The steps of the end of a stage: to leave its loop, to let go of its output unless it has
(`kept`), and to close. -/
def closing (kept : Bool) (s : Stage) : Nat :=
  match s.phase with
  | .running => 3
  | .draining => if kept then 2 else 1
  | .closed => 0

/-- The steps of a stage with so many events coming: two for each of them, one for the event in its
hands, and those of its end. -/
def work (incoming : Nat) (kept : Bool) (s : Stage) : Nat :=
  2 * incoming + s.holding.toList.length + s.closing kept

theorem closing_le (kept : Bool) (s : Stage) : s.closing kept ≤ 3 := by
  unfold closing
  split
  · exact Nat.le_refl 3
  · split_ifs <;> decide
  · exact Nat.zero_le 3

theorem length_holding_le (s : Stage) : s.holding.toList.length ≤ 1 := by
  cases s.holding <;> simp

theorem Move.work_lt (h : s.Move b input output input' output' s') :
    s'.work input'.queue.length output'.senderOpen <
      s.work input.queue.length output.senderOpen := by
  cases h with
  | take running idle head =>
    simp only [work, closing, running, idle, head, Option.toList_none, Option.toList_some,
      List.length_nil, List.length_cons]
    omega
  | deliver running held =>
    simp only [work, closing, running, held, Option.toList_none, Option.toList_some,
      List.length_singleton, List.length_nil]
    omega
  | refuse running held =>
    -- The end may be shorter than usual, and besides a step is saved with the event.
    simp only [work, closing, running, held, Option.toList_none, Option.toList_some,
      List.length_singleton, List.length_nil]
    split_ifs <;> omega
  | drain running idle =>
    simp only [work, closing, running]
    split_ifs <;> omega
  | release draining kept =>
    simp only [work, closing, draining, kept, Channel.closeSender, Bool.false_eq_true, if_true,
      if_false]
    omega
  | close draining released =>
    simp only [work, closing, draining, released, Channel.dropReceiver, List.length_nil,
      Bool.false_eq_true, if_false]
    omega

/-- Where nothing is lost, a stage makes its steps one by one. -/
theorem Move.work_add_one (h : s.Move b input output input' output' s') (further : Nat)
    (alive : s.phase = .running → output.receiverOpen = true)
    (kept : s.phase = .running → output.senderOpen = true)
    (drained : s.phase = .draining → input.queue = []) :
    s'.work (input'.queue.length + further) output'.senderOpen + 1 =
      s.work (input.queue.length + further) output.senderOpen := by
  cases h with
  | take running idle head =>
    simp only [work, closing, running, idle, head, Option.toList_none, Option.toList_some,
      List.length_nil, List.length_cons]
    omega
  | deliver running held =>
    simp only [work, closing, running, held, Option.toList_none, Option.toList_some,
      List.length_singleton, List.length_nil]
  | refuse running _ gone =>
    rw [alive running] at gone
    cases gone
  | drain running => simp only [work, closing, running, kept running, if_true]
  | release draining open' =>
    simp only [work, closing, draining, open', Channel.closeSender, Bool.false_eq_true, if_true,
      if_false]
  | close draining released =>
    simp only [work, closing, draining, released, drained draining, Channel.dropReceiver,
      List.length_nil, Bool.false_eq_true, if_false]

end Stage

namespace Sink

variable {c c' : Channel Event} {s s' : Sink}

/-- The steps of a sink with so many events coming: one to write each of them, and one to end. -/
def work (incoming : Nat) (s : Sink) : Nat := incoming + if s.ended then 0 else 1

theorem Move.work_add_one (h : s.Move c c' s') (further : Nat) :
    s'.work (c'.queue.length + further) + 1 = s.work (c.queue.length + further) := by
  cases h with
  | write going head =>
    simp only [work, head, List.length_cons]
    omega
  | finish going empty =>
    simp only [work, going, empty, Channel.dropReceiver, Bool.false_eq_true, if_true, if_false]

end Sink

end RequestKeys
