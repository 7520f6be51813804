import Mathlib.Logic.Relation
import RequestKeys.Proofs.Flow.Station

/-!
# Delivery through a station

Whatever the surroundings of a stage do, each accepted event is in one place until it is delivered,
and the places in order spell the accepted events with their keys: delivered, in the output, in the
hands of the stage, in the input (`Faithful`).  Once nobody receives any more, what was delivered
stays as it is.
-/

namespace RequestKeys.Station

variable {b : KeyBuilder} {inCapacity outCapacity : Nat} {s t : Station}

/-- The events that a station has accepted and those it still has or has delivered are the same. -/
structure Faithful (b : KeyBuilder) (s : Station) : Prop where
  events_eq : s.output.receiverOpen = true →
    s.delivered ++ s.output.queue ++ s.stage.holding.toList ++ s.input.queue.map b.assign =
      s.accepted.map b.assign
  delivered_prefix : s.delivered <+: s.accepted.map b.assign

theorem Faithful.move (f : s.Faithful b) (o : s.Orderly b) (h : s.Move t) : t.Faithful b := by
  cases h with
  | idle => exact f
  | send e =>
    constructor
    · intro alive
      simp only [List.map_append, ← f.events_eq alive, List.append_assoc]
    · simp only [List.map_append]
      exact f.delivered_prefix.trans (List.prefix_append _ _)
  | @receive e rest alive head =>
    have events := f.events_eq alive
    rw [head] at events
    constructor
    · intro _
      simpa using events
    · refine ⟨rest ++ s.stage.holding.toList ++ s.input.queue.map b.assign, ?_⟩
      simpa using events
  | closeInput => exact ⟨f.events_eq, f.delivered_prefix⟩
  | dropOutput => exact ⟨nofun, f.delivered_prefix⟩
  | @stage input output stage move =>
    refine ⟨fun alive' => ?_, f.delivered_prefix⟩
    have alive : s.output.receiverOpen = true := move.receiverOpen_eq ▸ alive'
    rw [o.builder_eq] at move
    -- A stage that is about to let go of its input has drained it, as nobody has refused an event.
    have moved := move.events_eq (fun _ => alive) fun draining =>
      (o.drained_of_alive alive (by simp [draining])).1
    calc s.delivered ++ output.queue ++ stage.holding.toList ++ input.queue.map b.assign
        = s.delivered ++
            (s.output.queue ++ s.stage.holding.toList ++ s.input.queue.map b.assign) := by
          rw [← moved]
          simp only [List.append_assoc]
      _ = s.accepted.map b.assign := by
          rw [← f.events_eq alive]
          simp only [List.append_assoc]

theorem Reachable.faithful (h : Reachable b inCapacity outCapacity s) : s.Faithful b := by
  induction h with
  | start => exact ⟨fun _ => rfl, List.nil_prefix⟩
  | next h step ih => exact ih.move h.orderly step.move

/-! ## After the receiver is gone -/

theorem Move.delivered_eq (h : s.Move t) (gone : s.output.receiverOpen = false) :
    t.delivered = s.delivered ∧ t.output.receiverOpen = false := by
  cases h with
  | idle | send | closeInput => exact ⟨rfl, gone⟩
  | receive alive =>
    rw [gone] at alive
    cases alive
  | dropOutput => exact ⟨rfl, rfl⟩
  | stage move => exact ⟨rfl, move.receiverOpen_eq.trans gone⟩

theorem delivered_eq_of_steps (steps : Relation.ReflTransGen Step s t)
    (gone : s.output.receiverOpen = false) :
    t.delivered = s.delivered ∧ t.output.receiverOpen = false := by
  induction steps with
  | refl => exact ⟨rfl, gone⟩
  | tail _ step ih =>
    have moved := step.move.delivered_eq ih.2
    exact ⟨moved.1.trans ih.1, moved.2⟩

theorem Reachable.steps (h : Reachable b inCapacity outCapacity s)
    (steps : Relation.ReflTransGen Step s t) : Reachable b inCapacity outCapacity t := by
  induction steps with
  | refl => exact h
  | tail _ step ih => exact ih.next step

/-! ## The main statement -/

/-- First in, first out, and exactly once: with somebody to receive them, the accepted events with
their keys are those delivered, in the output, held and in the input, in this order, and the last
two are none when the stage has ended; with nobody, the events delivered remain the same start of
the accepted ones. -/
theorem delivered_append_eq_map_assign (h : Reachable b inCapacity outCapacity s) :
    (s.output.receiverOpen = true →
      s.delivered ++ s.output.queue ++ s.stage.holding.toList ++ s.input.queue.map b.assign =
        s.accepted.map b.assign) ∧
    (s.output.receiverOpen = false → ∀ t, Relation.ReflTransGen Step s t →
      t.delivered = s.delivered ∧ s.delivered <+: t.accepted.map b.assign) ∧
    (s.output.receiverOpen = true → s.stage.phase = .closed →
      s.delivered ++ s.output.queue = s.accepted.map b.assign) := by
  refine ⟨h.faithful.events_eq, fun gone t steps => ?_, fun alive closed => ?_⟩
  · have kept := (delivered_eq_of_steps steps gone).1
    exact ⟨kept, kept ▸ (h.steps steps).faithful.delivered_prefix⟩
  · have left : s.stage.phase ≠ .running := by simp [closed]
    have events := h.faithful.events_eq alive
    rw [h.orderly.holding_eq_none left, (h.orderly.drained_of_alive alive left).1] at events
    simpa using events

theorem delivered_append_eq_map_assign_closed :
    let b : KeyBuilder := ⟨⟨.all, []⟩, []⟩
    let e : Event := .ofRequest ['G', 'E', 'T'] ['/', '4', '2']
    let sent := ((start b 1 2).act (.send e)).2.settle
    let resent := ((sent.act .receive).2.act (.send { e with key := ['k'] })).2.settle
    let s := (resent.act .closeInput).2.settle
    s.stage.phase = .closed ∧ s.output.receiverOpen = true ∧ s.delivered.length = 1 ∧
      s.delivered ++ s.output.queue = s.accepted.map b.assign := by
  intro b e sent resent s
  have h : Reachable b 1 2 s := ((((Reachable.start.act _).settle.act _).act _).settle.act _).settle
  have closed : s.stage.phase = .closed := by decide
  have alive : s.output.receiverOpen = true := by decide
  exact ⟨closed, alive, by decide, (delivered_append_eq_map_assign h).2.2 alive closed⟩

end RequestKeys.Station
