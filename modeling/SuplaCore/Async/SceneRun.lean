import SuplaCore.Lib.Sys
import SuplaCore.Async.Task

/-!
# The run of a scene

`supla_scene_asynctask` from its constructor to the end of the last `_execute`
(`supla-server/src/scene/scene_asynctask.cpp`), with `execute` of `supla_abstract_asynctask` around
it (`supla-server/src/asynctask/abstract_asynctask.cpp`). Nobody cancels the task, the clock does
not go back, and `usleep` sleeps for as long as it is told to.

Times are microseconds. A step has all the readings of the clock that are made in it.
-/

namespace Async

open Sys

/-- An operation of a scene; `skipped`: it executes a scene that is among the callers. -/
structure SceneOperation where
  delayMs : UInt32
  skipped : Bool

/-- `supla_scene_operations::get_delay_ms`, of the first operation. -/
def getDelayMs : List SceneOperation → UInt32
  | [] => 0
  | op :: _ => op.delayMs

inductive ScenePc
  /-- constructed -/
  | created
  /-- in the queue, or picked -/
  | waiting
  /-- before a turn of the loop of `_execute`, which sleeps until then -/
  | turn (wakeAt : Int)
  /-- past the loop -/
  | out
  | done (completedAt : Int)

structure SceneRun where
  operations : List SceneOperation
  /-- How many operations have been popped. -/
  popped : Nat
  estimatedExecutionTime : UInt32
  task : Task
  createdAt : Int
  startedAt : Int
  now : Int
  pc : ScenePc
  /-- The calls of `execute_action`: which operation, and when. -/
  executed : List (Nat × Int)

inductive SceneRunAct
  | start (t : Int)
  /-- A thread picks the task and calls `execute`. -/
  | run (t : Int)
  | turn (t : Int)
  /-- What follows the loop in `_execute` and after that in `execute`. -/
  | leave (t t₁ t₂ t₃ : Int)

namespace SceneRun

/-- The constructor. -/
def create (operations : List SceneOperation) (estimated : UInt32) (now : Int) : SceneRun where
  operations := operations
  popped := 0
  estimatedExecutionTime := estimated
  task := Task.setDelayUsec now (getDelayMs operations * 1000).toNat
    ⟨.init, 0, 0, none, false, 0, 0, true, false⟩
  createdAt := now
  startedAt := now
  now := now
  pc := .created
  executed := []

/-- `supla_scene_state::get_milliseconds_left`, of the state of a task that is not finished. -/
def millisecondsLeft (now : Int) (s : SceneRun) : UInt32 :=
  let endingAt := s.startedAt + s.estimatedExecutionTime.toNat * 1000
  if now < endingAt then UInt32.ofNat ((endingAt - now).toNat / 1000) else 0

/-- A turn of the loop: an operation is popped, and either the loop is left or `usleep` called. -/
def turn (t : Int) (s : SceneRun) : SceneRun :=
  let s := { s with now := t }
  let s :=
    match s.operations with
    | [] => s
    | op :: rest =>
      { s with
        operations := rest
        popped := s.popped + 1
        executed := if op.skipped then s.executed else s.executed ++ [(s.popped, t)] }
  if s.operations.isEmpty || getDelayMs s.operations > 1000 then { s with pc := .out }
  else { s with pc := .turn (t + (getDelayMs s.operations * 1000).toNat) }

def leave (t t₁ t₂ t₃ : Int) (s : SceneRun) : SceneRun :=
  if !s.operations.isEmpty then
    let delay := getDelayMs s.operations * 1000
    { s with
      task := (s.task.setDelayUsec t delay.toNat).executeEnd t₁ true false
      now := t₃
      pc := .waiting }
  else if s.millisecondsLeft t > 100 then
    let delay := s.millisecondsLeft t₁ * 1000
    { s with
      task := (s.task.setDelayUsec t₂ delay.toNat).executeEnd t₃ true false
      now := t₃
      pc := .waiting }
  else { s with task := s.task.executeEnd t₁ false true, now := t₃, pc := .done t₁ }

def step (s : SceneRun) : SceneRunAct → Option SceneRun
  | .start t =>
    match s.pc with
    | .created =>
      if s.now ≤ t then
        some { s with task := s.task.start.2, startedAt := t, now := t, pc := .waiting }
      else none
    | _ => none
  | .run t =>
    match s.pc with
    | .waiting =>
      if s.now ≤ t ∧ s.task.state = .waiting ∧ s.task.timeLeftUsec t ≤ 0 then
        let r := s.task.pick.2.executeBegin t
        some { s with task := r.2, now := t, pc := if r.1 then .turn t else .waiting }
      else none
    | _ => none
  | .turn t =>
    match s.pc with
    | .turn wakeAt => if s.now ≤ t ∧ wakeAt ≤ t then some (s.turn t) else none
    | _ => none
  | .leave t t₁ t₂ t₃ =>
    match s.pc with
    | .out => if s.now ≤ t ∧ t ≤ t₁ ∧ t₁ ≤ t₂ ∧ t₂ ≤ t₃ then some (s.leave t t₁ t₂ t₃) else none
    | _ => none

end SceneRun

/-- A scene with the given operations and estimated time. -/
def sceneRun (operations : List SceneOperation) (estimated : UInt32) :
    Machine SceneRun SceneRunAct where
  init s := ∃ now, s = SceneRun.create operations estimated now
  step := SceneRun.step

end Async
