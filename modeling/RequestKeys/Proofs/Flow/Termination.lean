import Mathlib.Logic.Relation
import RequestKeys.Proofs.Flow.Batch
import RequestKeys.Proofs.Flow.Work

/-!
# Every pipeline comes to its end

A pipeline in which some task has not ended has a task that can make a step
(`Reachable.exists_step`), and every step takes one from the steps that are ahead
(`Orderly.work_add_one`), so that all runs are finite and those that cannot go on have the same
length.  The tasks end in the order of the line.
-/

namespace RequestKeys.Pipeline

variable {builder : KeyBuilder} {format : Format} {inCapacity outCapacity : Nat}
  {input : List UInt8} {p q r : Pipeline} {n : Nat}

/-! ## The channels -/

/-- The channels keep their bounds, and a stage that has closed has let go of its input. -/
structure Bounded (inCapacity outCapacity : Nat) (p : Pipeline) : Prop where
  requests_capacity : p.requests.capacity = inCapacity
  keyed_capacity : p.keyed.capacity = outCapacity
  requests_released : p.stage.phase = .closed → p.requests.receiverOpen = false

theorem Bounded.move (d : p.Bounded inCapacity outCapacity) (h : p.Move q) :
    q.Bounded inCapacity outCapacity := by
  cases h with
  | feed move =>
    exact { d with
      requests_capacity := move.capacity_eq.trans d.requests_capacity
      requests_released := fun closed => move.receiverOpen_eq.trans (d.requests_released closed) }
  | stage move =>
    obtain ⟨requests_eq, keyed_eq⟩ := move.capacity_eq
    refine ⟨requests_eq.trans d.requests_capacity, keyed_eq.trans d.keyed_capacity, ?_⟩
    cases move with
    | take | deliver => exact d.requests_released
    | refuse | drain => exact nofun
    | release => exact d.requests_released
    | close => exact fun _ => rfl
  | sink move => exact { d with keyed_capacity := move.capacity_eq.trans d.keyed_capacity }

theorem Reachable.bounded (h : Reachable builder format inCapacity outCapacity input p) :
    p.Bounded inCapacity outCapacity := by
  induction h with
  | start => exact ⟨rfl, rfl, nofun⟩
  | next _ step ih => exact ih.move step.move

/-! ## Nobody waits for ever -/

/-- A pipeline in which no task can make a step has ended: the sink waits for an event only if the
stage waits for one too, and the stage only if the feed has none. -/
theorem Orderly.ended_of_stuck (o : p.Orderly builder) (d : p.Bounded inCapacity outCapacity)
    (roomIn : 0 < inCapacity) (roomOut : 0 < outCapacity) (feed : p.feedStep = none)
    (stage : p.stageStep = none) (sink : p.sinkStep = none) : p.Ended := by
  rw [feedStep, Option.map_eq_none_iff, Feed.step_eq_none_iff, d.requests_capacity] at feed
  rw [stageStep, Option.map_eq_none_iff, Stage.step_eq_none_iff, d.keyed_capacity] at stage
  rw [sinkStep, Option.map_eq_none_iff, Sink.step_eq_none_iff] at sink
  have drained : p.keyed.queue = [] := by
    rcases sink with ended | ⟨empty, -⟩
    · exact (o.sink_ended ended).2
    · exact empty
  -- So there is room before the stage, and if it has not ended it waits for an event.
  have waiting : p.stage.phase = .closed ∨
      p.requests.queue = [] ∧ p.requests.senderOpen = true := by
    rcases stage with closed | ⟨-, ⟨-, empty, kept⟩ | ⟨-, -, full⟩⟩
    · exact .inl closed
    · exact .inr ⟨empty, kept⟩
    · rw [drained, List.length_nil] at full
      omega
  have read : p.feed.ended = true := by
    rcases feed with ended | ⟨-, -, full⟩
    · exact ended
    · rcases waiting with closed | ⟨empty, -⟩
      · exact (o.stage_left (by simp [closed])).1
      · rw [empty, List.length_nil] at full
        omega
  have closed : p.stage.phase = .closed := by
    rcases waiting with closed | ⟨-, kept⟩
    · exact closed
    · rw [o.requests_senderOpen, read] at kept
      cases kept
  refine ⟨read, closed, ?_⟩
  rcases sink with ended | ⟨-, kept⟩
  · exact ended
  · rw [o.keyed_released closed] at kept
    cases kept

/-- Nobody holds an end of a channel any more, and nothing is left in it. -/
theorem Orderly.channels_eq (o : p.Orderly builder) (d : p.Bounded inCapacity outCapacity)
    (ended : p.Ended) :
    p.requests = ⟨inCapacity, [], false, false⟩ ∧ p.keyed = ⟨outCapacity, [], false, false⟩ := by
  obtain ⟨read, closed, written⟩ := ended
  obtain ⟨released, drained⟩ := o.sink_ended written
  have left := (o.stage_left (by simp [closed])).2.1
  have sent : p.requests.senderOpen = false := by rw [o.requests_senderOpen, read]; rfl
  have gone : p.keyed.receiverOpen = false := by rw [o.keyed_receiverOpen, written]; rfl
  exact ⟨Channel.ext d.requests_capacity left sent (d.requests_released closed),
    Channel.ext d.keyed_capacity drained released gone⟩

/-! ## The steps ahead -/

/-- The steps that all tasks have ahead of them. -/
def work (p : Pipeline) : Nat :=
  p.feed.work + p.stage.work p.coming.length p.keyed.senderOpen +
    p.sink.work (p.pending p.builder).length

theorem length_pending (builder : KeyBuilder) (p : Pipeline) :
    (p.pending builder).length =
      p.keyed.queue.length + (p.stage.holding.toList.length + p.coming.length) := by
  simp only [pending, List.length_append, List.length_map, Nat.add_assoc]

/-- Each step takes one from the steps ahead: it is one of the task that makes it, and the other
tasks have as much coming as before. -/
theorem Orderly.work_add_one (o : p.Orderly builder) (h : p.Move q) : q.work + 1 = p.work := by
  cases h with
  | feed move =>
    have alive := o.requests_alive move.going
    have own := move.work_add_one alive
    have coming := congrArg List.length (move.queue_append_ahead alive)
    simp only [work, length_pending, Pipeline.coming, coming]
    omega
  | stage move =>
    have own := move.work_add_one p.feed.ahead.length o.keyed_alive o.keyed_senderOpen
      o.requests_drained
    have events := congrArg List.length (move.events_eq o.keyed_alive o.requests_drained)
    simp only [List.length_append, List.length_map] at events
    simp only [work, length_pending, coming, List.length_append, Sink.work]
    omega
  | sink move =>
    have own := move.work_add_one (p.stage.holding.toList.length + p.coming.length)
    have coming : ∀ keyed sink, ({ p with keyed, sink } : Pipeline).coming = p.coming :=
      fun _ _ => rfl
    simp only [work, length_pending, coming, move.senderOpen_eq]
    omega

theorem work_start (builder : KeyBuilder) (format : Format) (inCapacity outCapacity : Nat)
    (input : List UInt8) :
    (start builder format inCapacity outCapacity input).work =
      (Line.split input).length + 4 * (Batch.requests input).length + 5 := by
  have ahead : (start builder format inCapacity outCapacity input).coming = Batch.requests input :=
    rfl
  rw [work, length_pending, ahead]
  show (Line.split input).length + (Batch.requests input).length + 1 +
    (2 * (Batch.requests input).length + 0 + 3) + (0 + (0 + (Batch.requests input).length) + 1) = _
  omega

theorem Orderly.work_eq_zero (o : p.Orderly builder) (ended : p.Ended) : p.work = 0 := by
  have coming := o.coming_eq_nil ended
  have held := (o.stage_left (by simp [ended.2.1])).2.2
  obtain ⟨exhausted, idle⟩ := o.feed_ended ended.1
  have drained := (o.sink_ended ended.2.2).2
  simp [work, length_pending, coming, held, drained, Feed.work, Feed.ahead, exhausted, idle,
    Line.split, ended.1, Stage.work, Stage.closing, ended.2.1, Sink.work, ended.2.2]

/-! ## Runs -/

/-- The runs from a state, with the number of their steps and the states they lead to. -/
inductive Run (p : Pipeline) : Nat → Pipeline → Prop where
  | start : Run p 0 p
  | next {n : Nat} {q r : Pipeline} (run : Run p n q) (step : Step q r) : Run p (n + 1) r

theorem Run.reachable (run : Run p n q)
    (h : Reachable builder format inCapacity outCapacity input p) :
    Reachable builder format inCapacity outCapacity input q := by
  induction run with
  | start => exact h
  | next _ step ih => exact ih.next step

theorem Run.add_work (run : Run p n q)
    (h : Reachable builder format inCapacity outCapacity input p) : n + q.work = p.work := by
  induction run with
  | start => exact Nat.zero_add _
  | next run step ih =>
    have less := (run.reachable h).orderly.work_add_one step.move
    omega

theorem run_of_forall_step {f : Nat → Pipeline} (steps : ∀ n, Step (f n) (f (n + 1))) (n : Nat) :
    Run (f 0) n (f n) := by
  induction n with
  | zero => exact .start
  | succ n ih => exact ih.next (steps n)

theorem Orderly.ended_iff (o : p.Orderly builder) (d : p.Bounded inCapacity outCapacity)
    (roomIn : 0 < inCapacity) (roomOut : 0 < outCapacity) : p.Ended ↔ ∀ q, ¬ Step p q := by
  constructor
  · intro ended q step
    have less := o.work_add_one step.move
    rw [o.work_eq_zero ended] at less
    omega
  · intro stuck
    refine o.ended_of_stuck d roomIn roomOut ?_ ?_ ?_
    · exact Option.eq_none_iff_forall_ne_some.2 fun q step => stuck q (.feed step)
    · exact Option.eq_none_iff_forall_ne_some.2 fun q step => stuck q (.stage step)
    · exact Option.eq_none_iff_forall_ne_some.2 fun q step => stuck q (.sink step)

/-! ## Running to the end -/

theorem advance_eq_none_iff :
    p.advance = none ↔ p.feedStep = none ∧ p.stageStep = none ∧ p.sinkStep = none := by
  unfold advance
  cases p.sinkStep with
  | some q => simp
  | none => cases p.stageStep <;> simp

theorem Reachable.ended_runFor {fuel : Nat}
    (h : Reachable builder format inCapacity outCapacity input p) (roomIn : 0 < inCapacity)
    (roomOut : 0 < outCapacity) (enough : p.work ≤ fuel) : (Pipeline.runFor fuel p).Ended := by
  induction fuel generalizing p with
  | zero =>
    refine (h.orderly.ended_iff h.bounded roomIn roomOut).2 fun q step => ?_
    have less := h.orderly.work_add_one step.move
    omega
  | succ fuel ih =>
    rw [Pipeline.runFor]
    split
    next q advanced =>
      have less := h.orderly.work_add_one (step_of_advance advanced).move
      exact ih (h.next (step_of_advance advanced)) (by omega)
    next blocked =>
      obtain ⟨feed, stage, sink⟩ := advance_eq_none_iff.1 blocked
      exact h.orderly.ended_of_stuck h.bounded roomIn roomOut feed stage sink

theorem length_split_le (input : List UInt8) : (Line.split input).length ≤ input.length := by
  induction input with
  | nil => exact Nat.le_refl 0
  | cons b rest ih =>
    rw [Line.split]
    split_ifs
    · exact Nat.succ_le_succ ih
    · cases lines : Line.split rest with
      | nil => exact Nat.succ_le_succ (Nat.zero_le _)
      | cons line lines' =>
        rw [lines, List.length_cons] at ih
        exact Nat.le_succ_of_le ih

/-- All tasks have ended when a pipeline has run. -/
theorem ended_run (builder : KeyBuilder) (format : Format) {capacity : Nat} (room : 0 < capacity)
    (input : List UInt8) : (run builder format capacity input).Ended := by
  refine Reachable.start.ended_runFor room room ?_
  have lines := length_split_le input
  have requests : (Batch.requests input).length ≤ (Line.split input).length :=
    List.length_filterMap_le _ _
  rw [work_start]
  show _ ≤ 5 * input.length + 5
  omega

/-! ## The order of the ends -/

/-- One step of one of the tasks, where a stage that has left its loop goes on to its end without a
pause. -/
inductive Turn : Pipeline → Pipeline → Prop where
  | feed {p q : Pipeline} (undisturbed : p.stage.phase ≠ .draining) (h : p.feedStep = some q) :
      Turn p q
  | stage {p q : Pipeline} (h : p.stageStep = some q) : Turn p q
  | sink {p q : Pipeline} (undisturbed : p.stage.phase ≠ .draining) (h : p.sinkStep = some q) :
      Turn p q

theorem Turn.step (h : Turn p q) : Step p q := by
  cases h with
  | feed _ h => exact .feed h
  | stage h => exact .stage h
  | sink _ h => exact .sink h

theorem exists_turn_of_step (h : Step p q) : ∃ r, Turn p r := by
  by_cases draining : p.stage.phase = .draining
  · cases staged : p.stageStep with
    | some r => exact ⟨r, .stage staged⟩
    | none =>
      rw [stageStep, Option.map_eq_none_iff, Stage.step_eq_none_iff, draining] at staged
      simp at staged
  · cases h with
    | feed h => exact ⟨q, .feed draining h⟩
    | stage h => exact ⟨q, .stage h⟩
    | sink h => exact ⟨q, .sink draining h⟩

theorem reachable_of_turns (turns : Relation.ReflTransGen Turn
      (start builder format inCapacity outCapacity input) p) :
    Reachable builder format inCapacity outCapacity input p := by
  induction turns with
  | refl => exact .start
  | tail _ turn ih => exact ih.next turn.step

/-- Where the stage ends without a pause, the sink does not end before it. -/
theorem closed_of_sink_ended (turns : Relation.ReflTransGen Turn
      (start builder format inCapacity outCapacity input) p) (ended : p.sink.ended = true) :
    p.stage.phase = .closed := by
  induction turns with
  | refl => cases ended
  | @tail p q turns turn ih =>
    have o := (reachable_of_turns turns).orderly
    cases turn with
    | feed _ h =>
      obtain ⟨⟨requests, feed⟩, -, rfl⟩ := Option.map_eq_some_iff.1 h
      exact ih ended
    | stage h =>
      obtain ⟨⟨requests, keyed, stage⟩, step, rfl⟩ := Option.map_eq_some_iff.1 h
      exact absurd (ih ended) (Stage.step_eq_some_iff.1 step).phase_ne_closed
    | sink undisturbed h =>
      obtain ⟨⟨keyed, sink⟩, step, rfl⟩ := Option.map_eq_some_iff.1 h
      cases Sink.step_eq_some_iff.1 step with
      | write going => exact absurd (going.symm.trans ended) nofun
      | finish _ _ released =>
        cases phase : p.stage.phase with
        | running => exact absurd ((o.keyed_senderOpen phase).symm.trans released) nofun
        | draining => exact absurd phase undisturbed
        | closed => rfl

/-! ## The main statement -/

/-- As long as not all tasks have ended some task can make a step, and each step takes one from the
steps that are ahead, so that a run from the start cannot be longer than five steps for each request,
one for every other line and five for the ends.  A run that cannot go on has ended all tasks and left
both channels closed and empty; the stage leaves its loop only after the feed has ended, and the sink
ends only after the stage has let go of its output, or, if nobody interrupts the end of the stage,
after the stage. -/
theorem ended_of_maximal_run (h : Reachable builder format inCapacity outCapacity input p)
    (roomIn : 0 < inCapacity) (roomOut : 0 < outCapacity) :
    (¬ p.Ended → ∃ q, Step p q) ∧
    (∀ q, Step p q → q.work + 1 = p.work) ∧
    (∀ n, Run (start builder format inCapacity outCapacity input) n p →
      n + p.work = (Line.split input).length + 4 * (Batch.requests input).length + 5) ∧
    (∀ f : Nat → Pipeline, f 0 = p → ¬ ∀ n, Step (f n) (f (n + 1))) ∧
    ((∀ q, ¬ Step p q) → p.Ended ∧ p.work = 0 ∧
      p.requests = ⟨inCapacity, [], false, false⟩ ∧ p.keyed = ⟨outCapacity, [], false, false⟩) ∧
    (p.stage.phase ≠ .running → p.feed.ended = true) ∧
    (p.sink.ended = true → p.stage.phase ≠ .running ∧ p.keyed.senderOpen = false) ∧
    (Relation.ReflTransGen Turn (start builder format inCapacity outCapacity input) p →
      (¬ p.Ended → ∃ q, Turn p q) ∧ (p.sink.ended = true → p.stage.phase = .closed)) := by
  have o := h.orderly
  have d := h.bounded
  have stuck_iff := o.ended_iff d roomIn roomOut
  have progress : ¬ p.Ended → ∃ q, Step p q := by
    rw [stuck_iff, not_forall_not]
    exact id
  refine ⟨progress, fun q step => o.work_add_one step.move, fun n run => ?_, fun f first steps => ?_,
    fun stuck => ?_, fun left => (o.stage_left left).1, fun ended => ?_, fun turns => ⟨?_, ?_⟩⟩
  · rw [run.add_work .start, work_start]
  · have longest := (run_of_forall_step steps (p.work + 1)).add_work (first ▸ h)
    rw [first] at longest
    omega
  · have ended := stuck_iff.2 stuck
    exact ⟨ended, o.work_eq_zero ended, o.channels_eq d ended⟩
  · have released := (o.sink_ended ended).1
    refine ⟨fun running => ?_, released⟩
    rw [o.keyed_senderOpen running] at released
    cases released
  · intro going
    obtain ⟨q, step⟩ := progress going
    exact exists_turn_of_step step
  · exact closed_of_sink_ended turns

/-- Two requests and a line that is none, with room for one event in each channel: a run that has
come to its end, whatever the order of the steps in it, has made sixteen steps. -/
theorem ended_of_maximal_run_three_lines :
    let b : KeyBuilder := ⟨⟨.all, []⟩, []⟩
    let input : List UInt8 := [0x47, 0x20, 0x2F, 0x0A, 0xFF, 0x0A, 0x47, 0x20, 0x2F]
    let p := run b .key 1 input
    (∀ q, ¬ Step p q) ∧ p.keyed = ⟨1, [], false, false⟩ ∧
      ∀ n, Run (start b .key 1 1 input) n p → n = 16 := by
  intro b input p
  have h : Reachable b .key 1 1 input p := reachable_run b .key 1 input
  have stuck := (h.orderly.ended_iff h.bounded Nat.zero_lt_one Nat.zero_lt_one).1
    (ended_run b .key Nat.zero_lt_one input)
  obtain ⟨-, -, steps, -, at_end, -⟩ := ended_of_maximal_run h Nat.zero_lt_one Nat.zero_lt_one
  obtain ⟨-, done, -, keyed⟩ := at_end stuck
  refine ⟨stuck, keyed, fun n run => ?_⟩
  have total := steps n run
  rw [done] at total
  exact total.trans (by decide)

end RequestKeys.Pipeline
