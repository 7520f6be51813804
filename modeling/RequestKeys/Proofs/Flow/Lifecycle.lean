import RequestKeys.Proofs.Flow.Account
import RequestKeys.Proofs.Flow.Delivery

/-!
# The life of a stage

A stage drains and then closes, each once, and it drains for one of two reasons: its input is closed
and all events are on its output, or nobody receives.  From the moment that nobody receives it takes
one more event at most and forwards none (`Forsaken`), and from the moment that it is closed nothing
about it changes any more (`Run.of_closed`).
-/

namespace RequestKeys

namespace Station

variable {b : KeyBuilder} {inCapacity outCapacity : Nat} {s t u : Station} {j : Journal}

/-! ## After the receiver is gone -/

/-- What a run from `s`, where nobody receives, can have come to: at most one event has been taken,
and none while the stage still waits for one. -/
structure Forsaken (s : Station) (j : Journal) (t : Station) : Prop where
  receiver_gone : t.output.receiverOpen = false
  forwarded_eq : j.forwarded = []
  observed_eq : t.stage.observed = s.stage.observed
  length_received_le : j.received.length ≤ 1
  received_eq : t.stage.phase = .running → t.stage.holding = none → j.received = []

theorem Forsaken.next (f : Forsaken s j t) (d : t.Ends) (h : t.Move u) :
    Forsaken s (j.record t u) u := by
  rcases h.stage_or_still with ⟨input, output, stage, move, rfl⟩ | ⟨stage, -, gone, still⟩
  · cases move with
    | take running idle head =>
      have kept := d.input_receiverOpen.2 (by simp [running])
      have received := f.received_eq running idle
      rw [Journal.record_take kept head]
      exact { f with
        length_received_le := by simp [received]
        received_eq := nofun }
    | deliver _ _ alive => exact absurd (f.receiver_gone.symm.trans alive) nofun
    | refuse running | drain running =>
      rw [Journal.record_leave running]
      exact { f with received_eq := nofun }
    | release =>
      rw [Journal.record_eq_self]
      · exact { f with }
      · exact Nat.le_refl _
      · exact Nat.le_refl _
      · rfl
    | close draining =>
      rw [Journal.record_close draining]
      exact { f with received_eq := nofun }
  · rw [still]
    exact { f with
      receiver_gone := gone f.receiver_gone
      observed_eq := stage ▸ f.observed_eq
      received_eq := stage ▸ f.received_eq }

theorem Run.forsaken (run : Run s j t) (h : Reachable b inCapacity outCapacity s)
    (gone : s.output.receiverOpen = false) : Forsaken s j t := by
  induction run with
  | start => exact ⟨gone, rfl, rfl, Nat.zero_le 1, fun _ _ => rfl⟩
  | next run step ih => exact ih.next (run.reachable h).ends step.move

/-! ## After the end -/

/-- A closed stage does nothing more, and its output only becomes less. -/
theorem Run.of_closed (run : Run s j t) (closed : s.stage.phase = .closed) :
    j = .empty ∧ t.stage = s.stage ∧ t.output.queue <:+ s.output.queue := by
  induction run with
  | start => exact ⟨rfl, rfl, List.suffix_rfl⟩
  | next _ step ih =>
    obtain ⟨journal, stage, less⟩ := ih
    rcases step.move.stage_or_still with ⟨_, _, _, move, -⟩ | ⟨stage', less', -, still⟩
    · exact absurd (stage ▸ closed) (Stage.Move.phase_ne_closed move)
    · exact ⟨(still _).trans journal, stage'.trans stage, less'.trans less⟩

/-- A closed stage accepts nothing. -/
theorem Ends.act_send_of_closed (d : s.Ends) (closed : s.stage.phase = .closed) (e : Event) :
    s.act (.send e) = (if s.input.senderOpen then .closed else .dropped, s) := by
  have gone : s.input.receiverOpen = false :=
    eq_false_of_ne_true fun kept => d.input_receiverOpen.1 kept closed
  rw [act, Channel.offer_eq_closed_iff.2 gone]
  cases s.input.senderOpen <;> rfl

/-! ## The end of the output -/

theorem act_receive_eq_disconnected (h : (s.act .receive).1 = .disconnected) :
    s.output.receiverOpen = true ∧ s.output.queue = [] ∧ s.output.senderOpen = false := by
  simp only [act] at h
  split_ifs at h with gone
  cases taken : s.output.take with
  | item e output => simp [taken] at h
  | empty => simp [taken] at h
  | closed => exact ⟨by simpa using gone, Channel.take_eq_closed_iff.1 taken⟩

/-- A stage closes only when it has let go of its output. -/
theorem Ends.output_released_of_step (d : s.Ends) (step : Step s t)
    (closed : t.stage.phase = .closed) : s.output.senderOpen = false := by
  rcases step.move.stage_or_still with ⟨_, _, _, move, rfl⟩ | ⟨stage, -⟩
  · cases move with
    | take running | deliver running => exact absurd (running.symm.trans closed) nofun
    | refuse | drain => cases closed
    | release draining => exact absurd (draining.symm.trans closed) nofun
    | close _ released => exact released
  · exact d.output_released (stage ▸ closed)

/-- A receiver that finds the output at its end has received every accepted event. -/
theorem Reachable.delivered_eq_of_disconnected (h : Reachable b inCapacity outCapacity s)
    (disconnected : (s.act .receive).1 = .disconnected) :
    s.delivered = s.accepted.map b.assign := by
  obtain ⟨alive, empty, released⟩ := act_receive_eq_disconnected disconnected
  have left : s.stage.phase ≠ .running := fun running =>
    absurd ((h.ends.output_kept running).symm.trans released) nofun
  have events := h.faithful.events_eq alive
  rw [empty, h.orderly.holding_eq_none left, (h.orderly.drained_of_alive alive left).1] at events
  simpa using events

/-- Why a stage has left its loop. -/
theorem Run.reason (run : Run (.start b inCapacity outCapacity) j s)
    (left : s.stage.phase ≠ .running) :
    s.input.senderOpen = false ∧ j.forwarded = s.accepted.map b.assign ∨
      s.stage.refused ∧ s.output.receiverOpen = false := by
  have o := (run.reachable .start).orderly
  cases refused : s.stage.refused with
  | false =>
    exact .inl ⟨(o.drained left refused).2, run.accounts.forwarded_eq_of_left o left refused⟩
  | true => exact .inr ⟨rfl, o.receiver_gone refused⟩

/-! ## The main statement -/

/-- A stage enters its two later phases at most once and in order; it leaves its loop only when its
input is closed and every accepted event is on its output, or when a delivery has failed; it closes
only when it has let go of its output, whose receiver finds the end after all events.  Once nobody
receives, one more event is taken at most and none forwarded or reported; and a closed stage changes
no more, adds nothing to its output and accepts nothing. -/
theorem lifecycle_of_reachable (h : Reachable b inCapacity outCapacity s) :
    (∃ j, Run (.start b inCapacity outCapacity) j s) ∧
    (∀ j, Run (.start b inCapacity outCapacity) j s →
      j.entered <+: [.draining, .closed] ∧
      (Phase.running :: j.entered).getLast? = some s.stage.phase ∧
      (s.stage.phase ≠ .running →
        s.input.senderOpen = false ∧ j.forwarded = s.accepted.map b.assign ∨
          s.stage.refused ∧ s.output.receiverOpen = false)) ∧
    (∀ t, Step s t → t.stage.phase = .closed → s.output.senderOpen = false) ∧
    ((s.act .receive).1 = .disconnected → s.delivered = s.accepted.map b.assign) ∧
    (s.output.receiverOpen = false → ∀ j t, Run s j t →
      j.received.length ≤ 1 ∧ j.forwarded = [] ∧ t.stage.observed = s.stage.observed) ∧
    (s.stage.phase = .closed → ∀ j t, Run s j t →
      t.stage = s.stage ∧ j = .empty ∧ t.output.queue <:+ s.output.queue ∧
      ∀ e, t.act (.send e) = (if t.input.senderOpen then .closed else .dropped, t)) := by
  refine ⟨h.exists_run, fun j run => ?_, fun t step => h.ends.output_released_of_step step,
    h.delivered_eq_of_disconnected, fun gone j t run => ?_, fun closed j t run => ?_⟩
  · rw [run.accounts.entered_eq]
    refine ⟨?_, ?_, run.reason⟩
    · cases s.stage.phase <;> decide
    · cases s.stage.phase <;> rfl
  · have f := run.forsaken h gone
    exact ⟨f.length_received_le, f.forwarded_eq, f.observed_eq⟩
  · obtain ⟨journal, stage, less⟩ := run.of_closed closed
    have closed : t.stage.phase = .closed := stage ▸ closed
    exact ⟨stage, journal, less, (run.reachable h).ends.act_send_of_closed closed⟩

/-- A stage that ends because its input is closed, with its one event received. -/
theorem lifecycle_of_reachable_finished :
    let b : KeyBuilder := ⟨⟨.all, []⟩, []⟩
    let e : Event := .ofRequest ['G', 'E', 'T'] ['/', '4', '2']
    let closed := (((start b 1 1).act (.send e)).2.act .closeInput).2.settle
    let s := (closed.act .receive).2
    s.stage.phase = .closed ∧ s.delivered = [b.assign e] ∧ s.act (.send e) = (.dropped, s) ∧
      ∃ j, Run (.start b 1 1) j s ∧ j.forwarded = [b.assign e] ∧
        (Phase.running :: j.entered).getLast? = some .closed := by
  intro b e closed s
  have h : Reachable b 1 1 s := (((Reachable.start.act _).act _).settle).act _
  have ended : s.stage.phase = .closed := by decide
  have accepted : s.accepted = [e] := by decide
  obtain ⟨⟨j, run⟩, runs, -, delivered, -, after⟩ := lifecycle_of_reachable h
  obtain ⟨-, last, reason⟩ := runs j run
  have forwarded : j.forwarded = [b.assign e] := by
    rcases reason (by simp [ended]) with ⟨-, forwarded⟩ | ⟨refused, -⟩
    · rw [forwarded, accepted]
      rfl
    · exact absurd refused (by decide)
  have received : s.delivered = [b.assign e] := by
    rw [delivered rfl, accepted]
    rfl
  exact ⟨ended, received, (after ended _ _ .start).2.2.2 e, j, run, forwarded,
    last.trans (congrArg some ended)⟩

end Station

end RequestKeys
