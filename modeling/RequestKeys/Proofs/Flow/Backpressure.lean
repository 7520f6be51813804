import Mathlib.Tactic.ByContra
import RequestKeys.Proofs.Flow.Delivery
import RequestKeys.Proofs.Flow.Journal
import RequestKeys.Proofs.Flow.Work

/-!
# Backpressure

A station holds as many events as its channels and one in the hands of its stage, and it refuses an
event as long as it has no room, only then.  A stage that can make no step waits for an event or for
room (`Reachable.waiting_iff`); so no event waits where there is room before it, and the events that
were accepted and not yet delivered decide alone what becomes of the next one
(`Reachable.act_send_of_settled`).
-/

namespace RequestKeys.Station

variable {b : KeyBuilder} {inCapacity outCapacity : Nat} {s t : Station}

/-! ## Room -/

/-- The channels of a station keep to their bounds. -/
structure Bounded (inCapacity outCapacity : Nat) (s : Station) : Prop where
  input_capacity : s.input.capacity = inCapacity
  output_capacity : s.output.capacity = outCapacity
  length_input_le : s.input.queue.length ≤ inCapacity
  length_output_le : s.output.queue.length ≤ outCapacity

theorem Bounded.move (d : s.Bounded inCapacity outCapacity) (h : s.Move t) :
    t.Bounded inCapacity outCapacity := by
  have less := d.length_input_le
  have less' := d.length_output_le
  cases h with
  | idle => exact d
  | send e kept alive room =>
    rw [d.input_capacity] at room
    exact { d with length_input_le := by simp; omega }
  | receive alive head =>
    rw [head, List.length_cons] at less'
    exact { d with length_output_le := by simp; omega }
  | closeInput => exact { d with }
  | dropOutput => exact { d with length_output_le := Nat.zero_le _ }
  | stage move =>
    obtain ⟨input_eq, output_eq⟩ := move.capacity_eq
    refine ⟨input_eq.trans d.input_capacity, output_eq.trans d.output_capacity,
      Nat.le_trans move.queue_suffix.length_le less, ?_⟩
    cases move with
    | deliver _ _ _ room =>
      rw [d.output_capacity] at room
      simp; omega
    | take | refuse | drain | release | close => exact less'

theorem Reachable.bounded (h : Reachable b inCapacity outCapacity s) :
    s.Bounded inCapacity outCapacity := by
  induction h with
  | start => exact ⟨rfl, rfl, Nat.zero_le _, Nat.zero_le _⟩
  | next _ step ih => exact ih.move step.move

/-- What was accepted and not yet delivered is in the channels and in the hands of the stage. -/
theorem Reachable.length_accepted_eq (h : Reachable b inCapacity outCapacity s)
    (alive : s.output.receiverOpen = true) :
    s.accepted.length = s.delivered.length + s.output.queue.length +
      s.stage.holding.toList.length + s.input.queue.length := by
  have events := congrArg List.length (h.faithful.events_eq alive)
  simp only [List.length_append, List.length_map] at events
  exact events.symm

theorem Reachable.length_accepted_le (h : Reachable b inCapacity outCapacity s)
    (alive : s.output.receiverOpen = true) :
    s.accepted.length ≤ s.delivered.length + inCapacity + outCapacity + 1 := by
  have accepted := h.length_accepted_eq alive
  have held := s.stage.length_holding_le
  have input := h.bounded.length_input_le
  have output := h.bounded.length_output_le
  omega

/-! ## Waiting -/

/-- A stage that can make no step and has not ended waits for an event or for room. -/
theorem Reachable.waiting_iff (h : Reachable b inCapacity outCapacity s) :
    s.advance = none ∧ s.stage.phase ≠ .closed ↔
      s.stage.phase = .running ∧
        (s.input.senderOpen = true ∧ s.input.queue = [] ∧ s.stage.holding = none ∨
          s.output.receiverOpen = true ∧ s.output.queue.length = outCapacity ∧
            s.stage.holding.isSome = true) := by
  have less := h.bounded.length_output_le
  rw [advance, Option.map_eq_none_iff, Stage.step_eq_none_iff, h.bounded.output_capacity]
  constructor
  · rintro ⟨closed | ⟨running, ⟨idle, empty, kept⟩ | ⟨held, alive, full⟩⟩, going⟩
    · exact absurd closed going
    · exact ⟨running, .inl ⟨kept, empty, idle⟩⟩
    · exact ⟨running, .inr ⟨alive, Nat.le_antisymm less full, held⟩⟩
  · rintro ⟨running, ⟨kept, empty, idle⟩ | ⟨alive, full, held⟩⟩
    · exact ⟨.inr ⟨running, .inl ⟨idle, empty, kept⟩⟩, by simp [running]⟩
    · exact ⟨.inr ⟨running, .inr ⟨held, alive, Nat.le_of_eq full.symm⟩⟩, by simp [running]⟩

/-- The steps that the stage of a station has ahead of it as things are. -/
def work (s : Station) : Nat := s.stage.work s.input.queue.length s.output.senderOpen

theorem work_lt_of_advance (h : s.advance = some t) : t.work < s.work := by
  obtain ⟨⟨input, output, stage⟩, step, rfl⟩ := Option.map_eq_some_iff.1 h
  exact (Stage.step_eq_some_iff.1 step).work_lt

theorem advance_runFor {fuel : Nat} (h : s.work ≤ fuel) : (runFor fuel s).advance = none := by
  induction fuel generalizing s with
  | zero =>
    rw [runFor]
    refine Option.eq_none_iff_forall_ne_some.2 fun t advanced => ?_
    have less := work_lt_of_advance advanced
    omega
  | succ fuel ih =>
    rw [runFor]
    split
    next t advanced =>
      have less := work_lt_of_advance advanced
      exact ih (by omega)
    next blocked => exact blocked

/-- A stage that is left to itself comes to wait or ends. -/
theorem advance_settle (s : Station) : s.settle.advance = none := by
  refine advance_runFor ?_
  have closing := Stage.closing_le s.output.senderOpen s.stage
  have held := s.stage.length_holding_le
  simp only [work, Stage.work, stepBound]
  omega

/-! ## Actions on a stage that waits -/

/-- Performs actions one after another, letting the stage run after each until it waits or has
ended. -/
def perform (s : Station) (actions : List Action) : Station :=
  actions.foldl (fun s a => (s.act a).2.settle) s

theorem Reachable.perform (h : Reachable b inCapacity outCapacity s) (actions : List Action) :
    Reachable b inCapacity outCapacity (s.perform actions) := by
  induction actions generalizing s with
  | nil => exact h
  | cons a actions ih => exact ih (h.act a).settle

theorem advance_perform (h : s.advance = none) (actions : List Action) :
    (s.perform actions).advance = none := by
  induction actions generalizing s with
  | nil => exact h
  | cons a actions ih => exact ih (advance_settle _)

/-- An event that is not accepted leaves everything as it was. -/
theorem act_send_eq_self {e : Event} (h : (s.act (.send e)).1 ≠ .sent) :
    (s.act (.send e)).2 = s := by
  simp only [act] at h ⊢
  split_ifs at h ⊢
  · rfl
  · cases offered : s.input.offer e with
    | sent input => simp [offered] at h
    | full => rfl
    | closed => rfl

theorem act_send_of_room {e : Event} (kept : s.input.senderOpen = true)
    (alive : s.input.receiverOpen = true) :
    (s.act (.send e)).1 =
      if s.input.queue.length < s.input.capacity then .sent else .full := by
  simp only [act, kept, Bool.not_true, Bool.false_eq_true, if_false]
  split_ifs with room
  · rw [Channel.offer_eq_sent_iff.2 ⟨alive, room, rfl⟩]
  · rw [Channel.offer_eq_full_iff.2 ⟨alive, Nat.le_of_not_lt room⟩]

/-- While the stage waits, an event is refused exactly if both channels are full and the stage holds
one more event. -/
theorem Reachable.act_send_of_settled (h : Reachable b inCapacity outCapacity s)
    (room : 0 < inCapacity) (settled : s.advance = none) (alive : s.output.receiverOpen = true)
    (kept : s.input.senderOpen = true) (e : Event) :
    s.stage.phase = .running ∧
      (s.act (.send e)).1 =
        if s.accepted.length = s.delivered.length + inCapacity + outCapacity + 1 then .full
        else .sent := by
  have running : s.stage.phase = .running := by
    by_contra left
    exact absurd (kept.symm.trans (h.orderly.drained_of_alive alive left).2) nofun
  have listening : s.input.receiverOpen = true := h.ends.input_receiverOpen.2 (by simp [running])
  have accepted := h.length_accepted_eq alive
  have less := h.bounded.length_input_le
  have less' := h.bounded.length_output_le
  refine ⟨running, ?_⟩
  rw [act_send_of_room kept listening, h.bounded.input_capacity]
  rcases (h.waiting_iff.1 ⟨settled, by simp [running]⟩).2 with ⟨-, empty, idle⟩ | ⟨-, full, held⟩
  · -- The stage waits for an event, so its input has room.
    rw [empty, idle] at accepted
    simp only [Option.toList_none, List.length_nil] at accepted
    rw [empty, List.length_nil, if_pos room, if_neg (by omega)]
  · -- The stage waits for room in its output, so only the input may have some left.
    obtain ⟨held, holding⟩ := Option.isSome_iff_exists.1 held
    rw [holding, full, Option.toList_some, List.length_singleton] at accepted
    by_cases free : s.input.queue.length < inCapacity
    · rw [if_pos free, if_neg (by omega)]
    · rw [if_neg free, if_pos (by omega)]

/-! ## The main statement -/

/-- A station never holds more events than its channels and one.  A stage that can make no step and
has not ended has nothing to take or nowhere to put what it holds.  If the stage is left to itself
after each action, the next event is refused exactly if the station holds as many events as it can;
and an event that is not accepted changes nothing. -/
theorem act_send_of_perform (b : KeyBuilder) {inCapacity : Nat} (outCapacity : Nat)
    (room : 0 < inCapacity) :
    (∀ s, Reachable b inCapacity outCapacity s →
      (s.output.receiverOpen = true →
        s.accepted.length ≤ s.delivered.length + inCapacity + outCapacity + 1) ∧
      (s.advance = none ∧ s.stage.phase ≠ .closed ↔
        s.stage.phase = .running ∧
          (s.input.senderOpen = true ∧ s.input.queue = [] ∧ s.stage.holding = none ∨
            s.output.receiverOpen = true ∧ s.output.queue.length = outCapacity ∧
              s.stage.holding.isSome = true)) ∧
      ∀ e, (s.act (.send e)).1 ≠ .sent → (s.act (.send e)).2 = s) ∧
    ∀ actions,
      let s := (start b inCapacity outCapacity).perform actions
      s.advance = none ∧
      (s.output.receiverOpen = true → s.input.senderOpen = true → ∀ e,
        s.stage.phase = .running ∧
          (s.act (.send e)).1 =
            if s.accepted.length = s.delivered.length + inCapacity + outCapacity + 1 then .full
            else .sent) := by
  refine ⟨fun s h => ⟨h.length_accepted_le, h.waiting_iff, fun e => act_send_eq_self⟩,
    fun actions => ?_⟩
  have h : Reachable b inCapacity outCapacity ((start b inCapacity outCapacity).perform actions) :=
    Reachable.start.perform actions
  have settled := advance_perform (s := start b inCapacity outCapacity) rfl actions
  exact ⟨settled, h.act_send_of_settled room settled⟩

/-- Capacities of one and two: the fifth event is refused, and accepted after one was received. -/
theorem act_send_of_perform_one_two :
    let b : KeyBuilder := ⟨⟨.all, []⟩, []⟩
    let e : Event := .ofRequest ['G', 'E', 'T'] ['/', '4', '2']
    let four := (start b 1 2).perform (List.replicate 4 (.send e))
    let three := (start b 1 2).perform (List.replicate 4 (.send e) ++ [.receive])
    (four.act (.send e)).1 = .full ∧ (four.act (.send e)).2 = four ∧
      (three.act (.send e)).1 = .sent := by
  intro b e four three
  have all := act_send_of_perform b 2 (Nat.zero_lt_one)
  have full : (four.act (.send e)).1 = .full :=
    ((all.2 _).2 (by decide) (by decide) e).2.trans (if_pos (by decide))
  refine ⟨full, ?_, ?_⟩
  · exact (all.1 four (Reachable.start.perform _)).2.2 e (by rw [full]; nofun)
  · exact ((all.2 _).2 (by decide) (by decide) e).2.trans (if_neg (by decide))

end RequestKeys.Station
