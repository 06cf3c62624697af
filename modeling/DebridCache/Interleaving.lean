import Mathlib.Logic.Function.Basic
import DebridCache.Sweep

/-!
A sweep as it goes on, step by step. The checks of the enabled services take turns in any order: each
sends a request, receives its outcome, falls asleep, wakes or writes to the log while the others stand
still. When all have ended their maps are gathered, in the order of the enabled providers.
-/

namespace DebridCache

open Wire (Outcome)

/-- Where some work stands between two of its steps. -/
inductive Stage (α : Type) where
  | ready (rest : Exchange α)
  /-- A request is out and its outcome is not here yet. -/
  | waiting (next : Outcome → Exchange α)
  | asleep (rest : Exchange α)

structure Task (α : Type) where
  stage : Stage α
  client : Client

namespace Task

variable {α : Type}

def start (x : Exchange α) (c : Client) : Task α := ⟨.ready x, c⟩

/-- One step and what can be seen of it; none where the work has ended. -/
def step (t : Task α) : Option (List Event × Task α) :=
  match t.stage with
  | .ready (.done _) | .ready (.fail _) => none
  | .ready (.send r next) =>
    if t.client.isClosed then some ([], ⟨.ready (next (.failed .clientClosed)), t.client⟩)
    else some ([.sent r], ⟨.waiting next, t.client⟩)
  | .ready (.sleep d next) => some ([.slept d], ⟨.asleep next, t.client⟩)
  | .ready (.note _ next) => some ([], ⟨.ready next, t.client⟩)
  | .waiting next =>
    let (outcome, script) := t.client.script.next
    some ([], ⟨.ready (next outcome), { t.client with script }⟩)
  | .asleep next => some ([], ⟨.ready next, t.client⟩)

def value? (t : Task α) : Option α :=
  match t.stage with
  | .ready (.done a) => some a
  | _ => none

def fault? (t : Task α) : Option Fault :=
  match t.stage with
  | .ready (.fail f) => some f
  | _ => none

end Task

/-- A sweep underway. -/
structure Sweeping where
  enabled : List Provider
  tasks : Provider → Option (Task ResultMap)
  /-- What was seen so far of the providers, in the order in which it happened. -/
  journal : List (Provider × Event)

namespace Sweeping

/-- One step of a provider's task. The tasks of the others do not move. -/
def step (s : Sweeping) (p : Provider) : Option Sweeping := do
  let task ← s.tasks p
  let (events, next) ← task.step
  return { s with
    tasks := Function.update s.tasks p (some next)
    journal := s.journal ++ events.map fun event => (p, event) }

/-- Steps in the order in which the providers have their turns. -/
def follow (s : Sweeping) : List Provider → Option Sweeping
  | [] => some s
  | p :: turns => (s.step p).bind fun next => next.follow turns

def eventsOf (s : Sweeping) (p : Provider) : List Event :=
  s.journal.filterMap fun e => if e.1 = p then some e.2 else none

/-- The maps of all tasks, in the order of the enabled providers, once all have ended. -/
def gathered? (s : Sweeping) : Option (List ResultMap) :=
  s.enabled.mapM fun p => (s.tasks p).bind Task.value?

/-- Every enabled provider's place in the results takes the map at the same place in the list gathered. -/
def assemble (enabled : List Provider) (maps : List ResultMap) : SweepResults :=
  (enabled.zip maps).foldl (fun results e => Table.put e.1.key e.2 results) Registry.noResults

def results? (s : Sweeping) : Option SweepResults := s.gathered?.map (assemble s.enabled)

/-- The fault of a task that ended badly. It is the sweep's, which then never has results, though the other
tasks may go on. -/
def fault? (s : Sweeping) : Option Fault :=
  s.enabled.findSome? fun p => (s.tasks p).bind Task.fault?

end Sweeping

/-- A sweep before its first step. No hashes start no check. -/
def Registry.begin (r : Registry) (hashes : Value) : Sweeping :=
  if hashes.truthy then
    ⟨r.enabled, fun p => (r.get? p).map fun s => .start (s.tryCheck p hashes) s.client, []⟩
  else ⟨[], fun _ => none, []⟩

end DebridCache
