import Mathlib.Tactic.ByContra
import RequestKeys.Flow.Pipeline
import RequestKeys.Proofs.Flow.Moves

/-!
# The moves of a pipeline

A pipeline moves when one of its tasks does.  `Orderly` says how far the tasks have come with their
end: the feed ends before the stage leaves its loop, the stage lets go of its output before the sink
ends, and whoever ends leaves nothing behind.  So no send in a pipeline is ever refused
(`Orderly.requests_alive`, `Orderly.keyed_alive`).
-/

namespace RequestKeys

namespace Pipeline

/-- What a pipeline does in one step. -/
inductive Move (p : Pipeline) : Pipeline → Prop where
  | feed {requests : Channel Event} {feed : Feed}
      (move : p.feed.Move p.requests requests feed) : Move p { p with requests, feed }
  | stage {requests keyed : Channel Event} {stage : Stage}
      (move : p.stage.Move p.builder p.requests p.keyed requests keyed stage) :
      Move p { p with requests, keyed, stage }
  | sink {keyed : Channel Event} {sink : Sink} (move : p.sink.Move p.keyed keyed sink) :
      Move p { p with keyed, sink }

variable {builder : KeyBuilder} {format : Format} {inCapacity outCapacity : Nat}
  {input : List UInt8} {p q : Pipeline}

theorem Step.move (h : Step p q) : p.Move q := by
  cases h with
  | feed h =>
    obtain ⟨⟨requests, feed⟩, step, rfl⟩ := Option.map_eq_some_iff.1 h
    exact .feed (Feed.step_eq_some_iff.1 step)
  | stage h =>
    obtain ⟨⟨requests, keyed, stage⟩, step, rfl⟩ := Option.map_eq_some_iff.1 h
    exact .stage (Stage.step_eq_some_iff.1 step)
  | sink h =>
    obtain ⟨⟨keyed, sink⟩, step, rfl⟩ := Option.map_eq_some_iff.1 h
    exact .sink (Sink.step_eq_some_iff.1 step)

/-! ## Runs -/

theorem step_of_advance (h : p.advance = some q) : Step p q := by
  unfold advance at h
  cases sunk : p.sinkStep with
  | some r =>
    simp only [sunk, Option.some.injEq] at h
    exact .sink (h ▸ sunk)
  | none =>
    cases staged : p.stageStep with
    | some r =>
      simp only [sunk, staged, Option.some.injEq] at h
      exact .stage (h ▸ staged)
    | none =>
      simp only [sunk, staged] at h
      exact .feed h

theorem Reachable.runFor (h : Reachable builder format inCapacity outCapacity input p)
    (fuel : Nat) : Reachable builder format inCapacity outCapacity input (runFor fuel p) := by
  induction fuel generalizing p with
  | zero => exact h
  | succ fuel ih =>
    simp only [Pipeline.runFor]
    cases advanced : p.advance with
    | some q => exact ih (h.next (step_of_advance advanced))
    | none => exact h

theorem reachable_run (builder : KeyBuilder) (format : Format) (capacity : Nat)
    (input : List UInt8) :
    Reachable builder format capacity capacity input (run builder format capacity input) :=
  Reachable.start.runFor _

/-! ## Order -/

/-- What holds of the tasks of a pipeline and of the ends of its channels at any time. -/
structure Orderly (builder : KeyBuilder) (p : Pipeline) : Prop where
  builder_eq : p.builder = builder
  requests_senderOpen : p.requests.senderOpen = !p.feed.ended
  feed_ended : p.feed.ended = true → p.feed.unread = [] ∧ p.feed.holding = none
  requests_receiverOpen : p.stage.phase ≠ .closed → p.requests.receiverOpen = true
  stage_left : p.stage.phase ≠ .running →
    p.feed.ended = true ∧ p.requests.queue = [] ∧ p.stage.holding = none
  keyed_senderOpen : p.stage.phase = .running → p.keyed.senderOpen = true
  keyed_released : p.stage.phase = .closed → p.keyed.senderOpen = false
  keyed_receiverOpen : p.keyed.receiverOpen = !p.sink.ended
  sink_ended : p.sink.ended = true → p.keyed.senderOpen = false ∧ p.keyed.queue = []

theorem Orderly.running_of_going (o : p.Orderly builder) (going : p.feed.ended = false) :
    p.stage.phase = .running := by
  by_contra left
  have ended := (o.stage_left left).1
  rw [going] at ended
  cases ended

theorem Orderly.requests_alive (o : p.Orderly builder) (going : p.feed.ended = false) :
    p.requests.receiverOpen = true :=
  o.requests_receiverOpen (by simp [o.running_of_going going])

theorem Orderly.keyed_alive (o : p.Orderly builder) (running : p.stage.phase = .running) :
    p.keyed.receiverOpen = true := by
  rw [o.keyed_receiverOpen, Bool.not_eq_true']
  refine eq_false_of_ne_true fun ended => ?_
  have released := (o.sink_ended ended).1
  rw [o.keyed_senderOpen running] at released
  cases released

theorem Orderly.requests_drained (o : p.Orderly builder) (draining : p.stage.phase = .draining) :
    p.requests.queue = [] :=
  (o.stage_left (by simp [draining])).2.1

theorem Orderly.feed (o : p.Orderly builder) {requests : Channel Event} {feed : Feed}
    (move : p.feed.Move p.requests requests feed) :
    ({ p with requests, feed } : Pipeline).Orderly builder := by
  have running := o.running_of_going move.going
  have alive := o.requests_alive move.going
  cases move with
  | send going =>
    exact { o with
      feed_ended := fun ended => absurd (going.symm.trans ended) nofun
      stage_left := fun left => absurd running left }
  | refuse _ _ gone =>
    rw [alive] at gone
    cases gone
  | finish _ idle exhausted =>
    exact { o with
      requests_senderOpen := rfl
      feed_ended := fun _ => ⟨exhausted, idle⟩
      stage_left := fun left => absurd running left }
  | read going | skip going =>
    exact { o with
      feed_ended := fun ended => absurd (going.symm.trans ended) nofun
      stage_left := fun left => absurd running left }

theorem Orderly.stage (o : p.Orderly builder) {requests keyed : Channel Event} {stage : Stage}
    (move : p.stage.Move p.builder p.requests p.keyed requests keyed stage) :
    ({ p with requests, keyed, stage } : Pipeline).Orderly builder := by
  cases move with
  | take running =>
    exact { o with stage_left := fun left => absurd running left }
  | deliver running =>
    have kept := o.keyed_senderOpen running
    exact { o with
      stage_left := fun left => absurd running left
      sink_ended := fun ended => absurd (kept.symm.trans (o.sink_ended ended).1) nofun }
  | refuse running _ gone =>
    rw [o.keyed_alive running] at gone
    cases gone
  | drain running idle empty closed =>
    have ended : p.feed.ended = true := by
      rw [o.requests_senderOpen, Bool.not_eq_false'] at closed
      exact closed
    exact { o with
      requests_receiverOpen := fun _ => o.requests_receiverOpen (by simp [running])
      stage_left := fun _ => ⟨ended, empty, idle⟩
      keyed_senderOpen := nofun
      keyed_released := nofun }
  | release draining =>
    exact { o with
      keyed_senderOpen := fun running => absurd (draining.symm.trans running) nofun
      keyed_released := fun _ => rfl
      sink_ended := fun ended => ⟨rfl, (o.sink_ended ended).2⟩ }
  | close draining released =>
    have left := o.stage_left (by simp [draining])
    exact { o with
      requests_receiverOpen := fun open' => absurd rfl open'
      stage_left := fun _ => ⟨left.1, rfl, left.2.2⟩
      keyed_senderOpen := nofun
      keyed_released := fun _ => released }

theorem Orderly.sink (o : p.Orderly builder) {keyed : Channel Event} {sink : Sink}
    (move : p.sink.Move p.keyed keyed sink) :
    ({ p with keyed, sink } : Pipeline).Orderly builder := by
  cases move with
  | write going =>
    exact { o with sink_ended := fun ended => absurd (going.symm.trans ended) nofun }
  | finish _ _ closed =>
    exact { o with
      keyed_receiverOpen := rfl
      sink_ended := fun _ => ⟨closed, rfl⟩ }

theorem Orderly.move (o : p.Orderly builder) (h : p.Move q) : q.Orderly builder := by
  cases h with
  | feed move => exact o.feed move
  | stage move => exact o.stage move
  | sink move => exact o.sink move

theorem Reachable.orderly (h : Reachable builder format inCapacity outCapacity input p) :
    p.Orderly builder := by
  induction h with
  | start =>
    exact {
      builder_eq := rfl
      requests_senderOpen := rfl
      feed_ended := nofun
      requests_receiverOpen := fun _ => rfl
      stage_left := fun left => absurd rfl left
      keyed_senderOpen := fun _ => rfl
      keyed_released := nofun
      keyed_receiverOpen := rfl
      sink_ended := nofun }
  | next _ step ih => exact ih.move step.move

end Pipeline

end RequestKeys
