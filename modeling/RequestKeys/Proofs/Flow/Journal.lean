import RequestKeys.Proofs.Flow.Station

/-!
# Journals of stations

A journal says what the stage of a station has done in a run: the events it has received, those it
has forwarded and the phases it has entered.  Each step is recorded by what it has changed in the
channels and in the phase, so that a journal can be checked without a look into the stage.
-/

namespace RequestKeys.Station

/-! ## Runs and their journals -/

/-- What a stage has done, each in order. -/
structure Journal where
  received : List Event
  forwarded : List Event
  entered : List Phase

/-- The events that a step takes from the front of the input.  Those that are left when the stage
lets go of its input are not taken. -/
def taken (s t : Station) : List Event :=
  if t.input.receiverOpen then s.input.queue.take (s.input.queue.length - t.input.queue.length)
  else []

/-- The events that a step puts at the end of the output. -/
def put (s t : Station) : List Event := t.output.queue.drop s.output.queue.length

namespace Journal

/-- The journal of a stage that has done nothing. -/
def empty : Journal := ⟨[], [], []⟩

/-- A journal with one more step. -/
def record (j : Journal) (s t : Station) : Journal where
  received := j.received ++ taken s t
  forwarded := j.forwarded ++ put s t
  entered := if t.stage.phase = s.stage.phase then j.entered else j.entered ++ [t.stage.phase]

variable {s t : Station} {j : Journal} {e : Event} {held : Option Event}

/-- A step that neither takes from the input, nor puts on the output, nor enters a phase, leaves no
trace. -/
theorem record_eq_self (input : s.input.queue.length ≤ t.input.queue.length)
    (output : t.output.queue.length ≤ s.output.queue.length)
    (phase : t.stage.phase = s.stage.phase) : j.record s t = j := by
  have none_taken : taken s t = [] := by simp [taken, Nat.sub_eq_zero_of_le input]
  have none_put : put s t = [] := List.drop_eq_nil_of_le output
  simp [record, none_taken, none_put, phase]

theorem record_take {rest : List Event} {summary : Summary}
    (kept : s.input.receiverOpen = true) (head : s.input.queue = e :: rest) :
    j.record s { s with
      input := { s.input with queue := rest }
      stage := { s.stage with holding := held, summary } } =
        { j with received := j.received ++ [e] } := by
  simp [record, taken, put, kept, head]

theorem record_deliver {observed : Nat} :
    j.record s { s with
      output := { s.output with queue := s.output.queue ++ [e] }
      stage := { s.stage with holding := held, observed } } =
        { j with forwarded := j.forwarded ++ [e] } := by
  simp [record, taken, put]

theorem record_leave {refused : Bool} (running : s.stage.phase = .running) :
    j.record s { s with
      stage := { s.stage with phase := .draining, holding := held, refused } } =
        { j with entered := j.entered ++ [.draining] } := by
  simp [record, taken, put, running]

theorem record_close (draining : s.stage.phase = .draining) :
    j.record s { s with
      input := s.input.dropReceiver, stage := { s.stage with phase := .closed } } =
        { j with entered := j.entered ++ [.closed] } := by
  simp [record, taken, put, draining, Channel.dropReceiver]

end Journal

/-- A step is a move of the stage, or one of the surroundings, which leaves no trace. -/
theorem Move.stage_or_still {s t : Station} (h : s.Move t) :
    (∃ input output stage, s.stage.Move s.builder s.input s.output input output stage ∧
      t = { s with input, output, stage }) ∨
    t.stage = s.stage ∧ t.output.queue <:+ s.output.queue ∧
      (s.output.receiverOpen = false → t.output.receiverOpen = false) ∧
      ∀ j : Journal, j.record s t = j := by
  cases h with
  | stage move => exact .inl ⟨_, _, _, move, rfl⟩
  | idle =>
    exact .inr ⟨rfl, List.suffix_rfl, id,
      fun _ => Journal.record_eq_self (Nat.le_refl _) (Nat.le_refl _) rfl⟩
  | send e =>
    exact .inr ⟨rfl, List.suffix_rfl, id,
      fun _ => Journal.record_eq_self (by simp) (Nat.le_refl _) rfl⟩
  | receive _ head =>
    exact .inr ⟨rfl, by simp [head], id,
      fun _ => Journal.record_eq_self (Nat.le_refl _) (by simp [head]) rfl⟩
  | closeInput =>
    exact .inr ⟨rfl, List.suffix_rfl, id,
      fun _ => Journal.record_eq_self (Nat.le_refl _) (Nat.le_refl _) rfl⟩
  | dropOutput =>
    exact .inr ⟨rfl, List.nil_suffix, fun _ => rfl,
      fun _ => Journal.record_eq_self (Nat.le_refl _) (Nat.zero_le _) rfl⟩

/-- The runs from a state, with their journals and the states they lead to. -/
inductive Run (s : Station) : Journal → Station → Prop where
  | start : Run s .empty s
  | next {j : Journal} {t u : Station} (run : Run s j t) (step : Step t u) : Run s (j.record t u) u

variable {b : KeyBuilder} {inCapacity outCapacity : Nat} {s t : Station} {j : Journal}

theorem Run.reachable (run : Run s j t) (h : Reachable b inCapacity outCapacity s) :
    Reachable b inCapacity outCapacity t := by
  induction run with
  | start => exact h
  | next _ step ih => exact ih.next step

theorem Reachable.exists_run (h : Reachable b inCapacity outCapacity s) :
    ∃ j, Run (.start b inCapacity outCapacity) j s := by
  induction h with
  | start => exact ⟨_, .start⟩
  | next _ step ih =>
    obtain ⟨j, run⟩ := ih
    exact ⟨_, run.next step⟩

/-! ## The ends that a stage holds -/

/-- A stage holds its end of the output at least while it is running and its end of the input until
it is closed, and it has left its loop when a delivery has failed. -/
structure Ends (s : Station) : Prop where
  input_receiverOpen : s.input.receiverOpen = true ↔ s.stage.phase ≠ .closed
  output_kept : s.stage.phase = .running → s.output.senderOpen = true
  output_released : s.stage.phase = .closed → s.output.senderOpen = false
  accepted_of_running : s.stage.phase = .running → s.stage.refused = false

theorem Ends.move (d : s.Ends) (h : s.Move t) : t.Ends := by
  cases h with
  | idle => exact d
  | send | receive | closeInput | dropOutput =>
    exact ⟨d.input_receiverOpen, d.output_kept, d.output_released, d.accepted_of_running⟩
  | stage move =>
    cases move with
    | take | deliver => exact ⟨d.input_receiverOpen, d.output_kept, d.output_released,
        d.accepted_of_running⟩
    | refuse running | drain running =>
      have kept := d.input_receiverOpen.2 (by simp [running])
      exact ⟨⟨nofun, fun _ => kept⟩, nofun, nofun, nofun⟩
    | release draining =>
      exact ⟨d.input_receiverOpen, fun running => absurd (draining.symm.trans running) nofun,
        fun _ => rfl, d.accepted_of_running⟩
    | close _ released =>
      exact ⟨⟨nofun, fun left => absurd rfl left⟩, nofun, fun _ => released, nofun⟩

theorem Reachable.ends (h : Reachable b inCapacity outCapacity s) : s.Ends := by
  induction h with
  | start => exact ⟨⟨nofun, fun _ => rfl⟩, fun _ => rfl, nofun, fun _ => rfl⟩
  | next _ step ih => exact ih.move step.move

end RequestKeys.Station
