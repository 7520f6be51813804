import RequestKeys.Proofs.Flow.Intake
import RequestKeys.Proofs.Request.Line
import RequestKeys.Proofs.Text.Encoded

/-!
# Line endings

One carriage return at the end of a line is cut off, and any before it are blanks behind the words
of the line, so a line says the same with a carriage return more (`Line.read?_concat`).  A feed whose
lines all get one therefore goes through the same states as before, but for the octets ahead of it,
whatever its receiver does (`Intake.exists_alike_withReturns`).
-/

namespace RequestKeys

/-! ## Blanks behind a text -/

theorem Blank.words_concat {c : Char} (blank : isBlank c) (text : List Char) :
    words (text ++ [c]) = words text := by
  induction text with
  | nil => rw [List.nil_append, words_cons_of_isBlank blank]
  | cons d text ih =>
    cases text with
    | nil =>
      rw [List.singleton_append, words_cons_cons, words_singleton, words_singleton, if_pos blank,
        if_pos blank]
    | cons e rest =>
      rw [List.cons_append] at ih
      rw [List.cons_append, List.cons_append, words_cons_cons, words_cons_cons, ih]

namespace Line

variable {line unread rest : List UInt8}

/-- The words that are read of a line do not change with a blank behind it. -/
theorem words_requestField_concat {c : Char} (blank : Blank.isBlank c) (text : List Char) :
    Blank.words (requestField (text ++ [c])) = Blank.words (requestField text) := by
  have other : '"' ∉ [c] := by
    rw [List.mem_singleton]
    rintro rfl
    exact absurd blank (by decide)
  cases opening : Split.cut '"' text with
  | none =>
    have bare : '"' ∉ text ++ [c] := by
      rw [List.mem_append, not_or]
      exact ⟨Split.cut_eq_none_iff.1 opening, other⟩
    rw [requestField, requestField, opening, Split.cut_eq_none_iff.2 bare]
    exact Blank.words_concat blank text
  | some parts =>
    obtain ⟨rfl, first⟩ := Split.cut_eq_some_iff.1 opening
    have whole : parts.1 ++ '"' :: parts.2 ++ [c] = parts.1 ++ '"' :: (parts.2 ++ [c]) := by simp
    rw [whole, requestField, requestField, Split.cut_append_cons first, opening]
    cases closing : Split.cut '"' parts.2 with
    | none =>
      have bare := Split.cut_eq_none_iff.1 closing
      show Blank.words (Split.upTo '"' (parts.2 ++ [c])) = Blank.words (Split.upTo '"' parts.2)
      rw [Split.upTo_append bare, Split.upTo_eq_self other, Split.upTo_eq_self bare]
      exact Blank.words_concat blank parts.2
    | some inner =>
      obtain ⟨split, bare⟩ := Split.cut_eq_some_iff.1 closing
      show Blank.words (Split.upTo '"' (parts.2 ++ [c])) = Blank.words (Split.upTo '"' parts.2)
      rw [split, List.append_assoc, List.cons_append, Split.upTo_append_cons bare,
        Split.upTo_append_cons bare]

theorem parse?_concat {c : Char} (blank : Blank.isBlank c) (text : List Char) :
    parse? (text ++ [c]) = parse? text := by
  unfold parse?
  rw [words_requestField_concat blank]

/-! ## Carriage returns -/

theorem trim_concat (line : List UInt8) : trim (line ++ [carriageReturn]) = line := by
  rw [trim, if_pos List.getLast?_concat, List.dropLast_concat]

theorem decode_concat_carriageReturn (line : List UInt8) :
    Utf8.decode (line ++ [carriageReturn]) = Utf8.decode line ++ ['\r'] := by
  have ascii : Utf8.IsAscii '\r' := by decide
  exact Utf8.decodeFrom_append_toUInt8 (by simp) ascii line []

/-- A line with one carriage return more holds the same request. -/
theorem read?_concat (line : List UInt8) : read? (line ++ [carriageReturn]) = read? line := by
  rw [read?, trim_concat, read?]
  by_cases ended : line.getLast? = some carriageReturn
  · obtain ⟨inner, rfl⟩ := List.getLast?_eq_some_iff.1 ended
    rw [trim_concat, decode_concat_carriageReturn]
    exact parse?_concat (by decide) _
  · rw [trim, if_neg ended]

/-- An input with a carriage return before each line feed. -/
def withReturns (input : List UInt8) : List UInt8 :=
  input.flatMap fun b => if b = lineFeed then [carriageReturn, lineFeed] else [b]

theorem withReturns_eq_self (h : lineFeed ∉ line) : withReturns line = line := by
  induction line with
  | nil => rfl
  | cons b rest ih =>
    rw [List.mem_cons, not_or] at h
    rw [withReturns, List.flatMap_cons, if_neg (Ne.symm h.1), List.singleton_append]
    exact congrArg (b :: ·) (ih h.2)

theorem withReturns_append_cons (h : lineFeed ∉ line) (rest : List UInt8) :
    withReturns (line ++ lineFeed :: rest) =
      (line ++ [carriageReturn]) ++ lineFeed :: withReturns rest := by
  have front := withReturns_eq_self h
  rw [withReturns] at front ⊢
  rw [List.flatMap_append, front, List.flatMap_cons, if_pos rfl, List.append_assoc]
  rfl

theorem withReturns_eq_nil_iff : withReturns unread = [] ↔ unread = [] := by
  cases unread with
  | nil => exact Iff.rfl
  | cons b rest =>
    rw [withReturns, List.flatMap_cons]
    split_ifs <;> simp

/-- The first line of such an input has a carriage return more, unless it is the last and no line
feed ends it. -/
theorem exists_next?_withReturns (h : next? unread = some (line, rest)) :
    ∃ line', next? (withReturns unread) = some (line', withReturns rest) ∧
      read? line' = read? line := by
  have remaining : unread ≠ [] := fun exhausted => by
    rw [next?_eq_none_iff.2 exhausted] at h
    cases h
  have more : (withReturns unread).isEmpty = false := by
    simpa [withReturns_eq_nil_iff] using remaining
  rw [next?, if_neg (by simpa using remaining)] at h
  rw [next?, more]
  cases ends : Split.cut lineFeed unread with
  | none =>
    have bare := Split.cut_eq_none_iff.1 ends
    rw [ends] at h
    obtain ⟨rfl, rfl⟩ := Prod.mk.inj (Option.some.inj h)
    rw [withReturns_eq_self bare, ends]
    exact ⟨unread, rfl, rfl⟩
  | some parts =>
    obtain ⟨split, bare⟩ := Split.cut_eq_some_iff.1 ends
    rw [ends] at h
    obtain ⟨line, rest⟩ := parts
    obtain ⟨rfl, rfl⟩ := Prod.mk.inj (Option.some.inj h)
    have unbroken : lineFeed ∉ line ++ [carriageReturn] := by
      rw [List.mem_append, not_or]
      exact ⟨bare, by decide⟩
    rw [split, withReturns_append_cons bare, Split.cut_append_cons unbroken]
    exact ⟨line ++ [carriageReturn], rfl, read?_concat line⟩

end Line

/-! ## The feed -/

namespace Feed

variable {f g : Feed} {c d : Channel Event}

/-- A feed with a carriage return more on each line ahead of it. -/
def withReturns (f : Feed) : Feed := { f with unread := Line.withReturns f.unread }

theorem Move.withReturns (h : f.Move c d g) : f.withReturns.Move c d g.withReturns := by
  cases h with
  | send going held alive room => exact .send going held alive room
  | refuse going held gone => exact .refuse going held gone
  | finish going idle exhausted =>
    exact .finish going idle (Line.withReturns_eq_nil_iff.2 exhausted)
  | read going idle next request =>
    obtain ⟨line, next', same⟩ := Line.exists_next?_withReturns next
    exact .read going idle next' (same.trans request)
  | skip going idle next blank =>
    obtain ⟨line, next', same⟩ := Line.exists_next?_withReturns next
    exact .skip going idle next' (same.trans blank)

theorem step_withReturns (f : Feed) (c : Channel Event) :
    f.withReturns.step c = (f.step c).map fun (d, g) => (d, g.withReturns) := by
  cases stepped : f.step c with
  | none =>
    have waiting := step_eq_none_iff.1 stepped
    exact step_eq_none_iff.2 waiting
  | some next => exact step_eq_some_iff.2 (step_eq_some_iff.1 stepped).withReturns

end Feed

/-! ## A feed with its receiver -/

namespace Intake

variable {input : List UInt8} {capacity capacity' : Nat} {s t : Intake}

/-- A feed with its receiver, with a carriage return more on each line ahead. -/
def withReturns (s : Intake) : Intake := { s with feed := s.feed.withReturns }

theorem advance_withReturns (s : Intake) :
    s.withReturns.advance = s.advance.map (·.withReturns) := by
  show (s.feed.withReturns.step s.channel).map _ = ((s.feed.step s.channel).map _).map _
  rw [Feed.step_withReturns, Option.map_map, Option.map_map]
  rfl

theorem act_withReturns (s : Intake) (a : Action) :
    s.withReturns.act a = ((s.act a).1, (s.act a).2.withReturns) := by
  cases a with
  | receive =>
    cases alive : s.channel.receiverOpen
    · simp [act, withReturns, alive]
    · cases taken : s.channel.take <;> simp [act, withReturns, alive, taken]
  | drop => cases alive : s.channel.receiverOpen <;> simp [act, withReturns, alive]

theorem Reachable.withReturns (h : Reachable input capacity s) :
    Reachable (Line.withReturns input) capacity s.withReturns := by
  induction h with
  | start => exact .start
  | next _ step ih =>
    cases step with
    | outside a =>
      have acted := ih.act a
      rwa [act_withReturns] at acted
    | inside advanced =>
      refine ih.next (.inside ?_)
      rw [advance_withReturns, advanced]
      rfl

theorem Reachable.exists_withReturns (h : Reachable (Line.withReturns input) capacity t) :
    ∃ s, Reachable input capacity s ∧ t = s.withReturns := by
  induction h with
  | start => exact ⟨_, .start, rfl⟩
  | next _ step ih =>
    obtain ⟨s, reached, rfl⟩ := ih
    cases step with
    | outside a => exact ⟨_, reached.act a, by rw [act_withReturns]⟩
    | inside advanced =>
      rw [advance_withReturns] at advanced
      obtain ⟨u, before, rfl⟩ := Option.map_eq_some_iff.1 advanced
      exact ⟨u, reached.next (.inside before), rfl⟩

/-- Two feeds that show the same to the outside: their channels, what has been received from them,
whether they hold a request or have ended, and their counters. -/
structure Alike (s t : Intake) : Prop where
  received_eq : t.received = s.received
  channel_eq : t.channel = s.channel
  holding_eq : t.feed.holding = s.feed.holding
  ended_eq : t.feed.ended = s.feed.ended
  accepted_eq : t.feed.accepted = s.feed.accepted
  skipped_eq : t.feed.skipped = s.feed.skipped

theorem alike_withReturns (s : Intake) : Alike s s.withReturns := ⟨rfl, rfl, rfl, rfl, rfl, rfl⟩

/-- A feed that has ended while somebody receives has sent all requests and counted all lines. -/
theorem Reachable.complete_of_ended (h : Reachable input capacity s)
    (ended : s.feed.ended = true) (alive : s.channel.receiverOpen = true) :
    s.received ++ s.channel.queue = Batch.requests input ∧
    s.feed.accepted = (Batch.requests input).length ∧ s.feed.skipped = Batch.skipped input := by
  obtain ⟨failed, run⟩ := h.exists_run
  obtain ⟨read, sent, l⟩ := run.ledger
  cases run.standing with
  | going going => exact absurd (going.symm.trans ended) nofun
  | refused e _ _ gone => exact absurd (alive.symm.trans gone) nofun
  | exhausted _ idle exhausted fine =>
    subst fine
    have lines := l.lines_eq
    rw [exhausted, Line.split, List.append_nil] at lines
    obtain ⟨requests, -⟩ := l.of_exhausted idle exhausted
    refine ⟨(l.received_append alive).trans requests, l.accepted_eq.trans (by rw [requests]), ?_⟩
    rw [l.skipped_eq, ← lines, Batch.skipped]

/-- A carriage return before each line feed makes no difference: whatever one feed can show to the
outside, in whatever order its steps and those of its receiver come, the other can show as well; and
when both have ended while somebody receives, they have sent the same requests in the same order and
counted the same numbers of requests and of other lines. -/
theorem exists_alike_withReturns (input : List UInt8) :
    (∀ capacity s, Reachable input capacity s →
      ∃ t, Reachable (Line.withReturns input) capacity t ∧ Alike s t) ∧
    (∀ capacity t, Reachable (Line.withReturns input) capacity t →
      ∃ s, Reachable input capacity s ∧ Alike s t) ∧
    ∀ capacity capacity' s t, Reachable input capacity s →
      Reachable (Line.withReturns input) capacity' t →
      s.feed.ended = true → t.feed.ended = true →
      s.channel.receiverOpen = true → t.channel.receiverOpen = true →
      t.received ++ t.channel.queue = s.received ++ s.channel.queue ∧
      t.feed.accepted = s.feed.accepted ∧ t.feed.skipped = s.feed.skipped := by
  refine ⟨fun capacity s reached => ⟨_, reached.withReturns, alike_withReturns s⟩,
    fun capacity t reached => ?_, fun capacity capacity' s t reached reached' ended ended' alive
      alive' => ?_⟩
  · obtain ⟨s, before, rfl⟩ := reached.exists_withReturns
    exact ⟨s, before, alike_withReturns s⟩
  · obtain ⟨u, before, rfl⟩ := reached'.exists_withReturns
    obtain ⟨sent, accepted, skipped⟩ := reached.complete_of_ended ended alive
    obtain ⟨sent', accepted', skipped'⟩ := before.complete_of_ended ended' alive'
    exact ⟨sent'.trans sent.symm, accepted'.trans accepted.symm, skipped'.trans skipped.symm⟩

/-- Lines that end with carriage returns, within a character and within quotes, an empty line, and a
carriage return at the very end. -/
theorem exists_alike_withReturns_torn :
    let input : List UInt8 := [0x47, 0x20, 0x61, 0x0D, 0x0D, 0x0A, 0x47, 0x20, 0x2F, 0xE2, 0x82, 0x0A,
      0x22, 0x47, 0x20, 0x62, 0x0A, 0x0A, 0x47, 0x20, 0x63, 0x0D]
    let s := (start input 4).settle
    let t := (start (Line.withReturns input) 5).settle
    s.feed.ended = true ∧ t.feed.ended = true ∧ t.channel.queue = s.channel.queue ∧
      t.channel.queue.map (·.target.path) = [['a'], ['/', '\uFFFD'], ['b'], ['c']] ∧
      t.feed.accepted = 4 ∧ t.feed.skipped = 1 := by
  intro input s t
  have ended : s.feed.ended = true := by decide
  have ended' : t.feed.ended = true := by decide
  obtain ⟨sent, accepted, skipped⟩ := (exists_alike_withReturns input).2.2 4 5 s t
    Reachable.start.settle Reachable.start.settle ended ended' (by decide) (by decide)
  have queue : t.channel.queue = s.channel.queue := sent
  refine ⟨ended, ended', queue, ?_, accepted.trans (by decide), skipped.trans (by decide)⟩
  rw [queue]
  decide

end Intake

end RequestKeys
