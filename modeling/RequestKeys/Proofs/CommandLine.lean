import Mathlib.Tactic.SplitIfs
import RequestKeys.CommandLine
import RequestKeys.Proofs.Flow.Batch
import RequestKeys.Proofs.Flow.Termination
import RequestKeys.Proofs.Text.Digits

/-!
# Runs of the command line

A run ends with 1 and no output if its settings cannot be loaded or compiled, whatever its buffer
size, and else its output is that of the batch, if channels of that size can be made at all
(`run_eq_of_parse?`).  This holds for any loader and any engine.  Every number of 64 bits can be given
as a size, but the largest channel is smaller than the largest such number, and a run with a size
beyond it breaks down.
-/

namespace RequestKeys

namespace CommandLine

variable {d d' : Draft} {o : Options} {args : List (List Char)} {n : Nat}
  {tools : Tools} {content : Option (List UInt8)} {environment : Config.Environment}
  {input : List UInt8}

/-! ## The sizes that can be given -/

theorem readSize?_decimalDigits (h : n ≤ maxWord) : readSize? (decimalDigits n) = some n := by
  have digits {c : Char} (hc : c ∈ decimalDigits n) : isDigit c = true :=
    (isDigit_of_isDigit (isDigit_of_mem_decimalDigits hc)).1
  have unsigned : (decimalDigits n).head? ≠ some '+' := fun plus => by
    have digit := digits (List.mem_of_head? plus)
    exact absurd digit (by decide)
  have nonempty : decimalDigits n ≠ [] := Nat.toDigits_ne_nil
  simp only [readSize?, if_neg unsigned, digitsValue_decimalDigits, if_pos h]
  rw [if_neg]
  simpa [nonempty] using fun c hc => digits hc

theorem le_maxWord_of_readSize? {text : List Char} (h : readSize? text = some n) : n ≤ maxWord := by
  simp only [readSize?] at h
  generalize (if text.head? = some '+' then text.drop 1 else text) = digits at h
  split_ifs at h with unread small
  exact Option.some.inj h ▸ small

/-- Any size in a draft is a number of 64 bits. -/
def Draft.Sized (d : Draft) : Prop := ∀ n, d.buffer = some n → n ≤ maxWord

theorem Draft.Sized.setOption {name : String} {value : List Char} (sized : d.Sized)
    (h : setOption d name value = some d') : d'.Sized := by
  unfold CommandLine.setOption at h
  split at h
  · split_ifs at h
    exact Option.some.inj h ▸ sized
  · split_ifs at h
    obtain ⟨f, -, rfl⟩ := Option.map_eq_some_iff.1 h
    exact sized
  · split_ifs at h
    obtain ⟨size, read, rfl⟩ := Option.map_eq_some_iff.1 h
    intro n same
    exact Option.some.inj same ▸ le_maxWord_of_readSize? read
  · split_ifs at h
    exact Option.some.inj h ▸ sized
  · cases h

theorem Draft.Sized.parseFrom (sized : d.Sized) (h : parseFrom d args = some d') : d'.Sized := by
  fun_induction CommandLine.parseFrom d args with
  | case1 d => exact Option.some.inj h ▸ sized
  | case2 d => exact Option.some.inj h ▸ sized
  | case3 d arg rest _ name value _ ih =>
    obtain ⟨set, placed, after⟩ := Option.bind_eq_some_iff.1 h
    exact ih set (sized.setOption placed) after
  | case4 => cases h
  | case5 d arg rest _ _ _ _ ih => exact ih sized h
  | case6 => cases h
  | case7 d arg _ _ value rest _ _ ih =>
    obtain ⟨set, placed, after⟩ := Option.bind_eq_some_iff.1 h
    exact ih set (sized.setOption placed) after
  | case8 => cases h

theorem buffer_le_maxWord (h : parse? args = some o) : o.buffer ≤ maxWord := by
  obtain ⟨d, parsed, rfl⟩ := Option.map_eq_some_iff.1 h
  have sized : d.Sized := Draft.Sized.parseFrom (d := .empty) nofun parsed
  show d.buffer.getD 1024 ≤ maxWord
  cases given : d.buffer with
  | none => decide
  | some n => exact sized n given

/-- The option for the buffer size, up to its value. -/
def bufferOption : List Char := ['-', '-', 'b', 'u', 'f', 'f', 'e', 'r', '=']

theorem parse?_bufferOption (h : n ≤ maxWord) :
    parse? [bufferOption ++ decimalDigits n] = some ⟨none, .key, n, none, false⟩ := by
  have given (digits : List Char) : parse? [bufferOption ++ digits] =
      (((readSize? digits).map fun n => { Draft.empty with buffer := some n }).bind some).map
        (·.options) := rfl
  rw [given, readSize?_decimalDigits h]
  rfl

/-! ## Runs -/

/-- The key builder of the settings that a run loads, if it can load and compile them. -/
def Options.builder? (o : Options) (tools : Tools) (content : Option (List UInt8))
    (environment : Config.Environment) : Option KeyBuilder :=
  match tools.load (o.config.map fun name => ⟨name, content⟩) environment with
  | .error _ => none
  | .ok settings => (tools.engine.keyBuilder settings).toOption

theorem run_of_parse? (h : parse? args = some o) :
    tools.run args content environment input = o.run tools content environment input := by
  rw [Tools.run, h]

theorem Options.run_eq (o : Options) (tools : Tools) (content : Option (List UInt8))
    (environment : Config.Environment) (input : List UInt8) :
    o.run tools content environment input =
      match o.builder? tools content environment with
      | none => ⟨1, []⟩
      | some b =>
        if maxCapacity < max o.buffer 1 then ⟨101, []⟩
        else ⟨0, (Pipeline.run b o.format (max o.buffer 1) input).sink.text⟩ := by
  unfold Options.run builder?
  cases tools.load (o.config.map fun name => ⟨name, content⟩) environment with
  | error _ => rfl
  | ok settings =>
    cases compiled : tools.engine.keyBuilder settings <;> simp [compiled, Except.toOption]

/-- The sizes that can be given are the numbers of 64 bits.  Whatever the size, the loader and the
engine, a run whose settings cannot be loaded or compiled ends with 1 and prints nothing.  Else a run
succeeds with the text of the batch, which is what any order of the steps of its tasks leads to, if its
channels, which have room for one event at least, can be made; if they are too large it breaks
down. -/
theorem run_eq_of_parse? (tools : Tools) (content : Option (List UInt8))
    (environment : Config.Environment) (input : List UInt8) :
    (∀ n, (∃ args o, parse? args = some o ∧ o.buffer = n) ↔ n ≤ maxWord) ∧
      ∀ args o, parse? args = some o →
        (o.builder? tools content environment = none →
          tools.run args content environment input = ⟨1, []⟩) ∧
        ∀ b, o.builder? tools content environment = some b →
          (max o.buffer 1 ≤ maxCapacity →
            tools.run args content environment input = ⟨0, Batch.output b o.format input⟩ ∧
            ∀ p, Pipeline.Reachable b o.format (max o.buffer 1) (max o.buffer 1) input p →
              p.Ended → p.sink.text = (tools.run args content environment input).output) ∧
          (maxCapacity < max o.buffer 1 →
            tools.run args content environment input = ⟨101, []⟩) := by
  refine ⟨fun n => ⟨?_, fun small => ⟨_, _, parse?_bufferOption small, rfl⟩⟩, fun args o parsed => ?_⟩
  · rintro ⟨args, o, parsed, rfl⟩
    exact buffer_le_maxWord parsed
  · rw [run_of_parse? parsed, Options.run_eq]
    refine ⟨fun unbuilt => by rw [unbuilt], fun b built => ?_⟩
    rw [built]
    dsimp only
    constructor
    · intro room
      have reached := Pipeline.reachable_run b o.format (max o.buffer 1) input
      have ended := Pipeline.ended_run b o.format (Nat.le_max_right o.buffer 1) input
      rw [if_neg (Nat.not_lt.2 room), reached.text_eq_of_ended ended]
      exact ⟨rfl, fun p hp => hp.text_eq_of_ended⟩
    · intro large
      rw [if_pos large]

/-- With a size of zero, which is raised to one, and JSON asked for. -/
theorem run_eq_of_parse?_zero :
    let args : List (List Char) := [['-', '-', 'b', 'u', 'f', 'f', 'e', 'r', '=', '0'],
      ['-', '-', 'f', 'o', 'r', 'm', 'a', 't'], ['j', 's', 'o', 'n', 'l']]
    let input : List UInt8 := [0x47, 0x20, 0x2F, 0x34, 0x32, 0x0A, 0xFF]
    run args none [] input = ⟨0, Batch.output ⟨⟨.all, []⟩, []⟩ .jsonl input⟩ := by
  intro args input
  have parsed : parse? args = some ⟨none, .jsonl, 0, none, false⟩ := rfl
  exact (((run_eq_of_parse? .standard none [] input).2 args _ parsed).2 ⟨⟨.all, []⟩, []⟩ rfl).1
    (by decide) |>.1

/-- One more than the capacity of the largest channel is a number of 64 bits: where the run would print
a key it breaks down. -/
theorem run_of_buffer_beyond_maxCapacity :
    let size : List Char := ['2', '3', '0', '5', '8', '4', '3', '0', '0', '9', '2', '1', '3', '6',
      '9', '3', '9', '5', '2']
    let input : List UInt8 := [0x47, 0x45, 0x54, 0x20, 0x2F, 0x78, 0x0A]
    parse? [bufferOption ++ size] = some ⟨none, .key, maxCapacity + 1, none, false⟩ ∧
      Options.builder? ⟨none, .key, maxCapacity + 1, none, false⟩ .standard none [] =
        some ⟨⟨.all, []⟩, []⟩ ∧
      Batch.output ⟨⟨.all, []⟩, []⟩ .key input = ['G', 'E', 'T', ':', '/', 'x', '\n'] ∧
      run [bufferOption ++ size] none [] input = ⟨101, []⟩ :=
  ⟨rfl, rfl, by decide, rfl⟩

end CommandLine

end RequestKeys
