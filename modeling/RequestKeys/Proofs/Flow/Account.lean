import RequestKeys.Proofs.Flow.Journal

/-!
# The accounts of a stage

The counters of a stage and of its observer are those of its journal: what it has received is
counted by kind, and what it has forwarded is what it has reported (`Accounts`).  Both counts differ
only while an event is on its way through the stage, and for good when that event could not be
delivered.
-/

namespace RequestKeys

/-- What a stage has counted when it has received the given events. -/
def Summary.of (events : List Event) : Summary :=
  ⟨events.length, events.countP (!·.isKeyed), events.countP (·.isKeyed)⟩

theorem Summary.of_concat (events : List Event) (e : Event) :
    Summary.of (events ++ [e]) = (Summary.of events).count e := by
  cases keyed : e.isKeyed <;> simp [Summary.of, Summary.count, keyed]

theorem Summary.received_of (events : List Event) :
    (Summary.of events).received =
      (Summary.of events).normalized + (Summary.of events).passedThrough := by
  have counted := List.length_eq_countP_add_countP (!·.isKeyed) (l := events)
  simpa [Summary.of] using counted

/-- The phases that a stage has entered when it is in a given one. -/
def Phase.past : Phase → List Phase
  | running => []
  | draining => [draining]
  | closed => [draining, closed]

namespace Station

variable {b : KeyBuilder} {inCapacity outCapacity : Nat} {s t : Station} {j : Journal}

/-- What a journal that is kept from the start says about the state of a station. -/
structure Accounts (b : KeyBuilder) (j : Journal) (s : Station) : Prop where
  received_prefix : j.received <+: s.accepted
  accepted_eq : s.stage.refused = false → s.accepted = j.received ++ s.input.queue
  summary_eq : s.stage.summary = .of j.received
  received_eq : s.stage.refused = false →
    j.received.map b.assign = j.forwarded ++ s.stage.holding.toList
  received_eq_concat : s.stage.refused = true → ∃ e, j.received.map b.assign = j.forwarded ++ [e]
  observed_eq : s.stage.observed = j.forwarded.length
  delivered_append : s.output.receiverOpen = true → s.delivered ++ s.output.queue = j.forwarded
  entered_eq : j.entered = s.stage.phase.past

/-- A journal stays as it is in a step that leaves no trace. -/
theorem Accounts.of_still (a : Accounts b j t) (input : s.input.queue.length ≤ t.input.queue.length)
    (output : t.output.queue.length ≤ s.output.queue.length)
    (phase : t.stage.phase = s.stage.phase) : Accounts b (j.record s t) t := by
  rw [Journal.record_eq_self input output phase]
  exact a

theorem Accounts.next (a : Accounts b j s) (o : s.Orderly b) (d : s.Ends) (h : s.Move t) :
    Accounts b (j.record s t) t := by
  cases h with
  | idle => exact a.of_still (Nat.le_refl _) (Nat.le_refl _) rfl
  | send e =>
    have sent : Accounts b j { s with
        input := { s.input with queue := s.input.queue ++ [e] }, accepted := s.accepted ++ [e] } :=
      { a with
        received_prefix := a.received_prefix.trans (List.prefix_append _ _)
        accepted_eq := fun accepted => by simp [a.accepted_eq accepted] }
    exact sent.of_still (by simp) (Nat.le_refl _) rfl
  | @receive e rest alive head =>
    have received : Accounts b j { s with
        output := { s.output with queue := rest }, delivered := s.delivered ++ [e] } :=
      { a with delivered_append := fun _ => by simpa [head] using a.delivered_append alive }
    exact received.of_still (Nat.le_refl _) (by simp [head]) rfl
  | closeInput =>
    have closed : Accounts b j { s with input := s.input.closeSender } := { a with }
    exact closed.of_still (Nat.le_refl _) (Nat.le_refl _) rfl
  | dropOutput =>
    have dropped : Accounts b j { s with output := s.output.dropReceiver } :=
      { a with delivered_append := nofun }
    exact dropped.of_still (Nat.le_refl _) (Nat.zero_le _) rfl
  | stage move =>
    rw [o.builder_eq] at move
    cases move with
    | take running idle head =>
      have accepted := d.accepted_of_running running
      have kept := d.input_receiverOpen.2 (by simp [running])
      have events := a.accepted_eq accepted
      have received := a.received_eq accepted
      rw [head] at events
      rw [idle] at received
      rw [Journal.record_take kept head]
      exact { a with
        received_prefix := by simp [events]
        accepted_eq := fun _ => by simp [events]
        summary_eq := by rw [Summary.of_concat, ← a.summary_eq]
        received_eq := fun _ => by simp [received]
        received_eq_concat := fun refused => absurd (accepted.symm.trans refused) nofun }
    | deliver running held =>
      have accepted := d.accepted_of_running running
      have received := a.received_eq accepted
      rw [held] at received
      rw [Journal.record_deliver]
      exact { a with
        received_eq := fun _ => by simpa using received
        received_eq_concat := fun refused => absurd (accepted.symm.trans refused) nofun
        observed_eq := by simp [a.observed_eq]
        delivered_append := fun alive => by simp [← a.delivered_append alive] }
    | refuse running held =>
      have received := a.received_eq (d.accepted_of_running running)
      rw [held] at received
      rw [Journal.record_leave running]
      exact { a with
        accepted_eq := nofun
        received_eq := nofun
        received_eq_concat := fun _ => ⟨_, received⟩
        entered_eq := by rw [a.entered_eq, running]; rfl }
    | drain running =>
      rw [Journal.record_leave running]
      exact { a with entered_eq := by rw [a.entered_eq, running]; rfl }
    | release =>
      have released : Accounts b j { s with output := s.output.closeSender } := { a with }
      exact released.of_still (Nat.le_refl _) (Nat.le_refl _) rfl
    | close draining =>
      have left : s.stage.phase ≠ .running := by simp [draining]
      rw [Journal.record_close draining]
      exact { a with
        accepted_eq := fun accepted => by
          simpa [Channel.dropReceiver, (o.drained left accepted).1] using a.accepted_eq accepted
        entered_eq := by rw [a.entered_eq, draining]; rfl }

theorem Run.accounts (run : Run (.start b inCapacity outCapacity) j s) : Accounts b j s := by
  induction run with
  | start =>
    exact {
      received_prefix := List.nil_prefix
      accepted_eq := fun _ => rfl
      summary_eq := rfl
      received_eq := fun _ => rfl
      received_eq_concat := nofun
      observed_eq := rfl
      delivered_append := fun _ => rfl
      entered_eq := rfl }
  | next run step ih =>
    have reachable := run.reachable .start
    exact ih.next reachable.orderly reachable.ends step.move

/-! ## Received and observed -/

/-- A stage has received what it has reported, and besides the event in its hands or the one it has
lost. -/
theorem Accounts.received_eq_add (a : Accounts b j s) :
    s.stage.summary.received =
      s.stage.observed + if s.stage.holding.isSome ∨ s.stage.refused then 1 else 0 := by
  have received : s.stage.summary.received = j.received.length :=
    congrArg Summary.received a.summary_eq
  rw [received, a.observed_eq, ← List.length_map b.assign]
  cases refused : s.stage.refused with
  | false =>
    rw [a.received_eq refused]
    cases s.stage.holding <;> simp
  | true =>
    obtain ⟨e, received⟩ := a.received_eq_concat refused
    simp [received]

theorem Accounts.observed_eq_add (a : Accounts b j s) (alive : s.output.receiverOpen = true) :
    s.stage.observed = s.delivered.length + s.output.queue.length := by
  rw [a.observed_eq, ← a.delivered_append alive, List.length_append]

theorem Orderly.accepted_of_alive (o : s.Orderly b) (alive : s.output.receiverOpen = true) :
    s.stage.refused = false :=
  eq_false_of_ne_true fun refused => absurd (alive.symm.trans (o.receiver_gone refused)) nofun

/-- A stage that has left its loop without a loss has forwarded every accepted event. -/
theorem Accounts.forwarded_eq_of_left (a : Accounts b j s) (o : s.Orderly b)
    (left : s.stage.phase ≠ .running) (accepted : s.stage.refused = false) :
    j.forwarded = s.accepted.map b.assign := by
  have received := a.received_eq accepted
  rw [o.holding_eq_none left, Option.toList_none, List.append_nil] at received
  rw [← received, a.accepted_eq accepted, (o.drained left accepted).1, List.append_nil]

/-- Whatever the surroundings do, a stage has received a start of the accepted events and counted
them by kind; what it has received is one more than what it has reported while it holds an event and
after it has lost one, and the same otherwise; and what it has reported is what its receiver has got
or will get.  A stage that ends with its receiver there has received and reported every event. -/
theorem summary_eq_of_reachable (h : Reachable b inCapacity outCapacity s) :
    (∃ j, Run (.start b inCapacity outCapacity) j s) ∧
    (∀ j, Run (.start b inCapacity outCapacity) j s →
      j.received <+: s.accepted ∧
      s.stage.summary.received = j.received.length ∧
      s.stage.summary.normalized = j.received.countP (!·.isKeyed) ∧
      s.stage.summary.passedThrough = j.received.countP (·.isKeyed)) ∧
    s.stage.summary.received = s.stage.summary.normalized + s.stage.summary.passedThrough ∧
    s.stage.observed ≤ s.stage.summary.received ∧
    s.stage.summary.received ≤ s.stage.observed + 1 ∧
    (s.stage.summary.received = s.stage.observed + 1 ↔
      s.stage.holding.isSome ∨ s.stage.refused ∧ s.output.receiverOpen = false) ∧
    (s.output.receiverOpen = true →
      s.stage.observed = s.delivered.length + s.output.queue.length) ∧
    (s.output.receiverOpen = true → s.stage.phase = .closed →
      s.stage.summary.received = s.stage.observed ∧ s.stage.observed = s.accepted.length) := by
  obtain ⟨j, run⟩ := h.exists_run
  have a := run.accounts
  have o := h.orderly
  have counted := a.received_eq_add
  refine ⟨⟨j, run⟩, fun k run => ?_, ?_, ?_, ?_, ?_, a.observed_eq_add, fun alive closed => ?_⟩
  · have summary := run.accounts.summary_eq
    exact ⟨run.accounts.received_prefix, congrArg Summary.received summary,
      congrArg Summary.normalized summary, congrArg Summary.passedThrough summary⟩
  · rw [a.summary_eq]
    exact Summary.received_of j.received
  · omega
  · split_ifs at counted <;> omega
  · have lost : s.stage.refused ↔ s.stage.refused ∧ s.output.receiverOpen = false :=
      ⟨fun refused => ⟨refused, o.receiver_gone refused⟩, And.left⟩
    rw [← lost, counted]
    split_ifs with behind <;> simp [behind]
  · have left : s.stage.phase ≠ .running := by simp [closed]
    have accepted := o.accepted_of_alive alive
    have forwarded := a.forwarded_eq_of_left o left accepted
    rw [o.holding_eq_none left, accepted] at counted
    refine ⟨by simpa using counted, ?_⟩
    rw [a.observed_eq, forwarded, List.length_map]

/-- A stage that waits with its second event before a full output when the receiver goes away. -/
theorem summary_eq_of_reachable_refused :
    let b : KeyBuilder := ⟨⟨.all, []⟩, []⟩
    let e : Event := .ofRequest ['G', 'E', 'T'] ['/', '4', '2']
    let full := ((start b 1 1).act (.send { e with key := ['k'] })).2.settle
    let waiting := (full.act (.send e)).2.settle
    let s := (waiting.act .dropOutput).2.settle
    waiting.stage.holding.isSome ∧ s.stage.refused ∧
      s.stage.summary.received = s.stage.observed + 1 ∧
      ∃ j, Run (.start b 1 1) j s ∧ j.received.length = 2 ∧ j.received.countP (·.isKeyed) = 1 := by
  intro b e full waiting s
  have h : Reachable b 1 1 s := ((((Reachable.start.act _).settle.act _).settle.act _)).settle
  have refused : s.stage.refused := by decide
  have gone : s.output.receiverOpen = false := by decide
  obtain ⟨⟨j, run⟩, counts, -, -, -, behind, -⟩ := summary_eq_of_reachable h
  obtain ⟨-, received, -, passedThrough⟩ := counts j run
  exact ⟨by decide, refused, behind.2 (.inr ⟨refused, gone⟩), j, run,
    received.symm.trans (by decide), passedThrough.symm.trans (by decide)⟩

end Station
end RequestKeys
