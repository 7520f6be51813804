import RequestKeys.Proofs.Flow.Moves

/-!
# The moves of a station

A station moves when its surroundings act or its stage makes a step.  `Station.Move` lists both
kinds with their guards and effects, and `Orderly` is what every station keeps: a stage that has
left its loop holds nothing, and it has left it because its input was closed and drained or because
its output was refused.
-/

namespace RequestKeys

namespace Station

/-- What a station does in one step; an action that finds its end let go, or its channel full or
empty, changes nothing. -/
inductive Move (s : Station) : Station → Prop where
  | idle : Move s s
  | send (e : Event) (kept : s.input.senderOpen = true) (alive : s.input.receiverOpen = true)
      (room : s.input.queue.length < s.input.capacity) :
      Move s { s with
        input := { s.input with queue := s.input.queue ++ [e] }, accepted := s.accepted ++ [e] }
  | receive {e : Event} {rest : List Event} (alive : s.output.receiverOpen = true)
      (head : s.output.queue = e :: rest) :
      Move s { s with
        output := { s.output with queue := rest }, delivered := s.delivered ++ [e] }
  | closeInput (kept : s.input.senderOpen = true) : Move s { s with input := s.input.closeSender }
  | dropOutput (alive : s.output.receiverOpen = true) :
      Move s { s with output := s.output.dropReceiver }
  | stage {input output : Channel Event} {stage : Stage}
      (move : s.stage.Move s.builder s.input s.output input output stage) :
      Move s { s with input, output, stage }

variable {b : KeyBuilder} {inCapacity outCapacity : Nat} {s t : Station}

theorem move_act (s : Station) (a : Action) : s.Move (s.act a).2 := by
  cases a with
  | send e =>
    simp only [act]
    split_ifs with gone
    · exact .idle
    · cases offered : s.input.offer e with
      | sent d =>
        obtain ⟨alive, room, rfl⟩ := Channel.offer_eq_sent_iff.1 offered
        exact .send e (by simpa using gone) alive room
      | full => exact .idle
      | closed => exact .idle
  | receive =>
    simp only [act]
    split_ifs with gone
    · exact .idle
    · cases taken : s.output.take with
      | item e d =>
        obtain ⟨rest, head, rfl⟩ := Channel.take_eq_item_iff.1 taken
        exact .receive (by simpa using gone) head
      | empty => exact .idle
      | closed => exact .idle
  | closeInput =>
    simp only [act]
    split_ifs with kept
    · exact .closeInput kept
    · exact .idle
  | dropOutput =>
    simp only [act]
    split_ifs with alive
    · exact .dropOutput alive
    · exact .idle

theorem move_of_advance (h : s.advance = some t) : s.Move t := by
  obtain ⟨⟨input, output, stage⟩, step, rfl⟩ := Option.map_eq_some_iff.1 h
  exact .stage (Stage.step_eq_some_iff.1 step)

theorem Step.move (h : Step s t) : s.Move t := by
  cases h with
  | outside a => exact move_act s a
  | inside h => exact move_of_advance h

/-! ## Runs -/

theorem Reachable.act (h : Reachable b inCapacity outCapacity s) (a : Action) :
    Reachable b inCapacity outCapacity (s.act a).2 :=
  h.next (.outside s a)

theorem Reachable.runFor (h : Reachable b inCapacity outCapacity s) (fuel : Nat) :
    Reachable b inCapacity outCapacity (runFor fuel s) := by
  induction fuel generalizing s with
  | zero => exact h
  | succ fuel ih =>
    simp only [Station.runFor]
    cases advanced : s.advance with
    | some t => exact ih (h.next (.inside advanced))
    | none => exact h

theorem Reachable.settle (h : Reachable b inCapacity outCapacity s) :
    Reachable b inCapacity outCapacity s.settle :=
  h.runFor _

/-! ## Order -/

/-- What holds of the stage of a station and of the ends of its channels at any time. -/
structure Orderly (b : KeyBuilder) (s : Station) : Prop where
  builder_eq : s.builder = b
  holding_eq_none : s.stage.phase ≠ .running → s.stage.holding = none
  receiver_gone : s.stage.refused = true → s.output.receiverOpen = false
  drained : s.stage.phase ≠ .running → s.stage.refused = false →
    s.input.queue = [] ∧ s.input.senderOpen = false

theorem Orderly.move (o : s.Orderly b) (h : s.Move t) : t.Orderly b := by
  cases h with
  | idle => exact o
  | send e kept =>
    refine ⟨o.builder_eq, o.holding_eq_none, o.receiver_gone, fun left accepted => ?_⟩
    have closed := (o.drained left accepted).2
    rw [kept] at closed
    cases closed
  | receive => exact ⟨o.builder_eq, o.holding_eq_none, o.receiver_gone, o.drained⟩
  | closeInput =>
    exact ⟨o.builder_eq, o.holding_eq_none, o.receiver_gone,
      fun left accepted => ⟨(o.drained left accepted).1, rfl⟩⟩
  | dropOutput => exact ⟨o.builder_eq, o.holding_eq_none, fun _ => rfl, o.drained⟩
  | stage move =>
    cases move with
    | take running => exact ⟨o.builder_eq, fun left => absurd running left, o.receiver_gone,
        fun left => absurd running left⟩
    | deliver running => exact ⟨o.builder_eq, fun _ => rfl, o.receiver_gone,
        fun left => absurd running left⟩
    | refuse _ _ gone => exact ⟨o.builder_eq, fun _ => rfl, fun _ => gone, nofun⟩
    | drain _ idle empty closed =>
      exact ⟨o.builder_eq, fun _ => idle, o.receiver_gone, fun _ _ => ⟨empty, closed⟩⟩
    | release => exact ⟨o.builder_eq, o.holding_eq_none, o.receiver_gone, o.drained⟩
    | close draining =>
      have left : s.stage.phase ≠ .running := by simp [draining]
      exact ⟨o.builder_eq, fun _ => o.holding_eq_none left, o.receiver_gone,
        fun _ accepted => ⟨rfl, (o.drained left accepted).2⟩⟩

theorem Reachable.orderly (h : Reachable b inCapacity outCapacity s) : s.Orderly b := by
  induction h with
  | start => exact ⟨rfl, fun _ => rfl, nofun, fun left => absurd rfl left⟩
  | next _ step ih => exact ih.move step.move

/-- Where nobody has let go of the output, a stage that has left its loop has drained its input. -/
theorem Orderly.drained_of_alive (o : s.Orderly b) (alive : s.output.receiverOpen = true)
    (left : s.stage.phase ≠ .running) : s.input.queue = [] ∧ s.input.senderOpen = false := by
  refine o.drained left (eq_false_of_ne_true fun refused => ?_)
  have gone := o.receiver_gone refused
  rw [alive] at gone
  cases gone

end Station

end RequestKeys
