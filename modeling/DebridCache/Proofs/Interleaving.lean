import DebridCache.Interleaving
import DebridCache.Proofs.Fault

/-!
What one step of a task preserves, and from it what any order of turns preserves. A step moves what is
still to come of one task into what has been seen of it, and touches no other task. So what has been seen
of a provider with what is still to come stays the same, until nothing is left to come.
-/

namespace DebridCache

variable {α : Type}

/-- The steps that some work takes on a client. A request takes two, and so does a sleep. -/
def Exchange.steps (c : Client) : Exchange α → Nat
  | .done _ | .fail _ => 0
  | .send _ next =>
    if c.isClosed then (next (.failed .clientClosed)).steps c + 1
    else (next c.script.next.1).steps { c with script := c.script.next.2 } + 2
  | .sleep _ next => next.steps c + 2
  | .note _ next => next.steps c + 1

namespace Task

/-- What is still to come of a task, run without a break. -/
def rest (t : Task α) : Run α :=
  match t.stage with
  | .ready x | .asleep x => x.run t.client
  | .waiting next => (next t.client.script.next.1).run { t.client with script := t.client.script.next.2 }

def left (t : Task α) : Nat :=
  match t.stage with
  | .ready x => x.steps t.client
  | .asleep x => x.steps t.client + 1
  | .waiting next =>
    (next t.client.script.next.1).steps { t.client with script := t.client.script.next.2 } + 1

theorem step_preserves {t next : Task α} {events : List Event}
    (moved : t.step = some (events, next)) :
    t.rest.result = next.rest.result ∧ t.rest.events = events ++ next.rest.events ∧
      t.left = next.left + 1 := by
  obtain ⟨stage, c⟩ := t
  cases stage with
  | ready x =>
      cases x with
      | done a => cases moved
      | fail f => cases moved
      | send r k =>
          simp only [step] at moved
          split at moved
          · rename_i closed
            cases moved
            simp [rest, left, Exchange.run, Exchange.steps, closed]
          · rename_i isOpen
            cases moved
            simp [rest, left, Exchange.run, Exchange.steps, isOpen, Run.addEvent]
      | sleep d k =>
          cases moved
          exact ⟨rfl, rfl, rfl⟩
      | note e k =>
          cases moved
          exact ⟨rfl, rfl, rfl⟩
  | waiting k =>
      cases moved
      exact ⟨rfl, rfl, rfl⟩
  | asleep x =>
      cases moved
      exact ⟨rfl, rfl, rfl⟩

theorem ended_of_stopped {t : Task α} (stopped : t.step = none) :
    (∃ a, t.stage = .ready (.done a)) ∨ ∃ f, t.stage = .ready (.fail f) := by
  obtain ⟨stage, c⟩ := t
  cases stage with
  | ready x =>
      cases x with
      | done a => exact .inl ⟨a, rfl⟩
      | fail f => exact .inr ⟨f, rfl⟩
      | send r k =>
          unfold step at stopped
          dsimp only at stopped
          split at stopped <;> cases stopped
      | sleep d k => cases stopped
      | note e k => cases stopped
  | waiting k => cases stopped
  | asleep x => cases stopped

theorem value_of_stopped {t : Task α} {a : α} (stopped : t.step = none)
    (good : t.rest.result = .ok a) : t.value? = some a := by
  rcases ended_of_stopped stopped with ⟨b, stage⟩ | ⟨f, stage⟩
  · rw [rest, stage] at good
    rw [value?, stage]
    cases good
    rfl
  · rw [rest, stage] at good
    cases good

theorem fault_of_stopped {t : Task α} {f : Fault} (stopped : t.step = none)
    (bad : t.rest.result = .error f) : t.fault? = some f ∧ t.rest.events = [] := by
  rcases ended_of_stopped stopped with ⟨a, stage⟩ | ⟨g, stage⟩
  · rw [rest, stage] at bad
    cases bad
  · rw [rest, stage] at bad ⊢
    rw [fault?, stage]
    cases bad
    exact ⟨rfl, rfl⟩

theorem rest_of_fault {t : Task α} {f : Fault} (ended : t.fault? = some f) :
    t.rest.result = .error f := by
  obtain ⟨stage, c⟩ := t
  cases stage with
  | ready x =>
      cases x <;> cases ended
      rfl
  | waiting k => cases ended
  | asleep x => cases ended

theorem rest_of_value {t : Task α} {a : α} (ended : t.value? = some a) :
    t.rest = ⟨.ok a, [], [], t.client⟩ := by
  obtain ⟨stage, c⟩ := t
  cases stage with
  | ready x =>
      cases x <;> cases ended
      rfl
  | waiting k => cases ended
  | asleep x => cases ended

end Task

namespace Sweeping

def left (s : Sweeping) : Nat :=
  Provider.all.foldl (fun n p => n + ((s.tasks p).map Task.left).getD 0) 0

/-- A provider of which something was seen is on its way to what it has to find and show. One without a
task has nothing to find or to show. -/
def Due (found : ResultMap) (shown seen : List Event) : Option (Task ResultMap) → Prop
  | none => found = [] ∧ shown = [] ∧ seen = []
  | some t => t.rest.result = .ok found ∧ seen ++ t.rest.events = shown

/-- A sweep underway in which every provider is on its way. -/
structure OnCourse (found : Provider → ResultMap) (shown : Provider → List Event)
    (s : Sweeping) : Prop where
  enabled : ∀ p, p ∈ s.enabled ↔ (s.tasks p).isSome
  due : ∀ p, Due (found p) (shown p) (s.eventsOf p) (s.tasks p)

theorem step_eq {s next : Sweeping} {p : Provider} (moved : s.step p = some next) :
    ∃ t events later, s.tasks p = some t ∧ t.step = some (events, later) ∧
      next = { s with
        tasks := Function.update s.tasks p (some later)
        journal := s.journal ++ events.map fun event => (p, event) } := by
  unfold step at moved
  obtain ⟨t, task, moved⟩ := Option.bind_eq_some_iff.mp moved
  obtain ⟨⟨events, later⟩, stepped, moved⟩ := Option.bind_eq_some_iff.mp moved
  exact ⟨t, events, later, task, stepped, (Option.some.inj moved).symm⟩

/-- A step adds to what was seen of its own provider, and to nothing else. -/
theorem eventsOf_step (s : Sweeping) (p q : Provider) (events : List Event)
    (tasks : Provider → Option (Task ResultMap)) :
    eventsOf { s with tasks, journal := s.journal ++ events.map fun event => (p, event) } q =
      s.eventsOf q ++ if q = p then events else [] := by
  unfold eventsOf
  rw [List.filterMap_append, List.filterMap_map]
  congr 1
  by_cases same : q = p
  · subst same
    show events.filterMap (fun event => if q = q then some event else none) = _
    simp
  · rw [if_neg same]
    apply List.filterMap_eq_nil_iff.mpr
    intro event _
    exact if_neg fun other => same other.symm

theorem left_step {s : Sweeping} {p : Provider} {t later : Task ResultMap}
    (task : s.tasks p = some t) (shorter : t.left = later.left + 1) (journal : List (Provider × Event)) :
    s.left = left { s with tasks := Function.update s.tasks p (some later), journal } + 1 := by
  unfold left
  cases p <;> simp [Provider.all, Function.update, task, shorter] <;> omega

theorem enabled_step {s next : Sweeping} {q : Provider} (moved : s.step q = some next) :
    next.enabled = s.enabled := by
  obtain ⟨t, events, later, -, -, rfl⟩ := step_eq moved
  rfl

/-- Whoever moves, a task that is there goes on to the same end, and what was seen of it with what is still
to come stays the same. -/
theorem step_task {s next : Sweeping} {p q : Provider} (moved : s.step q = some next)
    {t : Task ResultMap} (task : s.tasks p = some t) :
    ∃ t', next.tasks p = some t' ∧ t'.rest.result = t.rest.result ∧
      next.eventsOf p ++ t'.rest.events = s.eventsOf p ++ t.rest.events := by
  obtain ⟨u, events, later, turn, stepped, rfl⟩ := step_eq moved
  rw [eventsOf_step]
  by_cases same : p = q
  · subst same
    rw [task] at turn
    cases turn
    obtain ⟨result, split, -⟩ := Task.step_preserves stepped
    refine ⟨later, Function.update_self .., result.symm, ?_⟩
    rw [if_pos rfl, List.append_assoc, ← split]
  · refine ⟨t, (Function.update_of_ne same ..).trans task, rfl, ?_⟩
    rw [if_neg same, List.append_nil]

theorem step_none {s next : Sweeping} {p q : Provider} (moved : s.step q = some next)
    (none : s.tasks p = none) : next.tasks p = Option.none ∧ next.eventsOf p = s.eventsOf p := by
  obtain ⟨u, events, later, turn, -, rfl⟩ := step_eq moved
  have other : p ≠ q := by
    rintro rfl
    rw [none] at turn
    cases turn
  rw [eventsOf_step, if_neg other, List.append_nil]
  exact ⟨(Function.update_of_ne other ..).trans none, rfl⟩

variable {found : Provider → ResultMap} {shown : Provider → List Event}

theorem OnCourse.step {s next : Sweeping} {p : Provider} (course : s.OnCourse found shown)
    (moved : s.step p = some next) : next.OnCourse found shown ∧ s.left = next.left + 1 := by
  refine ⟨⟨?_, ?_⟩, ?_⟩
  · intro q
    rw [enabled_step moved, course.enabled]
    cases task : s.tasks q with
    | none => rw [(step_none moved task).1]
    | some t =>
        obtain ⟨t', still, -⟩ := step_task moved task
        rw [still]
        rfl
  · intro q
    have due := course.due q
    cases task : s.tasks q with
    | none =>
        obtain ⟨none, seen⟩ := step_none moved task
        rw [none, seen, ← task]
        exact due
    | some t =>
        rw [task] at due
        obtain ⟨t', still, result, split⟩ := step_task moved task
        rw [still]
        exact ⟨result.trans due.1, split.trans due.2⟩
  · obtain ⟨t, events, later, task, stepped, rfl⟩ := step_eq moved
    exact left_step task (Task.step_preserves stepped).2.2 _

theorem OnCourse.follow {s next : Sweeping} {turns : List Provider} (course : s.OnCourse found shown)
    (followed : s.follow turns = some next) :
    next.OnCourse found shown ∧ s.left = next.left + turns.length := by
  induction turns generalizing s with
  | nil =>
      cases followed
      exact ⟨course, rfl⟩
  | cons p turns ih =>
      obtain ⟨middle, moved, followed⟩ := Option.bind_eq_some_iff.mp followed
      obtain ⟨onward, first⟩ := course.step moved
      obtain ⟨ends, later⟩ := ih onward followed
      exact ⟨ends, by rw [first, later, List.length_cons]; omega⟩

theorem put_results (found : Provider → ResultMap) (p : Provider) (map : ResultMap) :
    Table.put p.key map (Provider.all.map fun q => (q.key, found q)) =
      Provider.all.map fun q => (q.key, if q = p then map else found q) := by
  cases p <;> rfl

/-- Maps gathered in the order of the enabled providers come to stand each under its own provider. -/
theorem assemble_map (found : Provider → ResultMap) (enabled : List Provider) :
    assemble enabled (enabled.map found) =
      Provider.all.map fun p => (p.key, if p ∈ enabled then found p else []) := by
  have onto (start : Provider → ResultMap) :
      (enabled.zip (enabled.map found)).foldl
          (fun results e => Table.put e.1.key e.2 results)
          (Provider.all.map fun p => (p.key, start p)) =
        Provider.all.map fun p => (p.key, if p ∈ enabled then found p else start p) := by
    induction enabled generalizing start with
    | nil => simp
    | cons p ps ih =>
        rw [List.map_cons, List.zip_cons_cons, List.foldl_cons]
        dsimp only
        rw [put_results, ih]
        congr 1
        funext q
        by_cases here : q = p
        · subst here
          by_cases later : q ∈ ps <;> simp [later]
        · simp [here]
  exact onto fun _ => []

theorem mapM_eq_none {β : Type} {f : α → Option β} {xs : List α} {x : α} (member : x ∈ xs)
    (none : f x = none) : xs.mapM f = Option.none := by
  induction xs with
  | nil => cases member
  | cons y ys ih =>
      rw [List.mapM_cons]
      rcases List.mem_cons.mp member with rfl | later
      · rw [none]
        rfl
      · rw [ih later]
        cases f y <;> rfl

theorem gathered?_eq_none {s : Sweeping} {p : Provider} {t : Task ResultMap} (member : p ∈ s.enabled)
    (task : s.tasks p = some t) (going : t.value? = none) : s.gathered? = none := by
  apply mapM_eq_none member
  rw [task]
  exact going

/-- On course, a task that has ended has found what it had to, and everything was seen of it. -/
theorem OnCourse.ended {s : Sweeping} (course : s.OnCourse found shown) {p : Provider}
    {t : Task ResultMap} (task : s.tasks p = some t) {map : ResultMap} (ended : t.value? = some map) :
    map = found p ∧ s.eventsOf p = shown p := by
  have due := course.due p
  rw [task] at due
  obtain ⟨result, events⟩ := due
  rw [Task.rest_of_value ended] at result events
  cases result
  exact ⟨rfl, by simpa using events⟩

/-- A sweep on course either goes on or has its results and everything has been seen. -/
theorem OnCourse.ends_or_moves {s : Sweeping} (course : s.OnCourse found shown) :
    (s.results? = some (Provider.all.map fun p => (p.key, found p)) ∧
        ∀ p, s.eventsOf p = shown p) ∨
      (s.results? = none ∧ ∃ p, (s.step p).isSome) := by
  by_cases unfinished : ∃ p t, s.tasks p = some t ∧ t.value? = none
  · right
    obtain ⟨p, t, task, going⟩ := unfinished
    have member : p ∈ s.enabled := (course.enabled p).mpr (by simp [task])
    have due := course.due p
    rw [task] at due
    refine ⟨by rw [results?, gathered?_eq_none member task going]; rfl, p, ?_⟩
    cases stepped : t.step with
    | none =>
        rw [Task.value_of_stopped stepped due.1] at going
        cases going
    | some next => simp [Sweeping.step, task, stepped]
  · left
    have all (p : Provider) (t : Task ResultMap) (task : s.tasks p = some t) :
        t.value? = some (found p) ∧ s.eventsOf p = shown p := by
      cases ended : t.value? with
      | none => exact absurd ⟨p, t, task, ended⟩ unfinished
      | some map =>
          obtain ⟨rfl, seen⟩ := course.ended task ended
          exact ⟨rfl, seen⟩
    constructor
    · have maps : s.gathered? = some (s.enabled.map found) := by
        apply mapM_pure_of_forall
        intro p member
        obtain ⟨t, task⟩ := Option.isSome_iff_exists.mp ((course.enabled p).mp member)
        rw [task]
        exact (all p t task).1
      rw [results?, maps, Option.map_some, assemble_map]
      refine congrArg some (List.map_congr_left fun p _ => ?_)
      by_cases member : p ∈ s.enabled
      · rw [if_pos member]
      · have due := course.due p
        rw [course.enabled, Option.not_isSome_iff_eq_none] at member
        rw [member] at due
        simp [course.enabled, member, due.1]
    · intro p
      cases task : s.tasks p with
      | none =>
          have due := course.due p
          rw [task] at due
          rw [due.2.1, due.2.2]
      | some t => exact (all p t task).2

/-- A provider's task is on its way to its end, and of what it has to show some was seen. -/
structure Bound (s : Sweeping) (p : Provider) (result : Except Fault ResultMap)
    (shown : List Event) : Prop where
  enabled : p ∈ s.enabled
  task : ∃ t, s.tasks p = some t ∧ t.rest.result = result ∧ s.eventsOf p ++ t.rest.events = shown

theorem follow_preserves {P : Sweeping → Prop}
    (step : ∀ s next q, P s → s.step q = some next → P next) {s next : Sweeping} {turns : List Provider}
    (start : P s) (followed : s.follow turns = some next) : P next := by
  induction turns generalizing s with
  | nil =>
      cases followed
      exact start
  | cons q turns ih =>
      obtain ⟨middle, moved, followed⟩ := Option.bind_eq_some_iff.mp followed
      exact ih (step s middle q start moved) followed

theorem enabled_follow {s next : Sweeping} {turns : List Provider}
    (followed : s.follow turns = some next) : next.enabled = s.enabled :=
  follow_preserves (P := fun u => u.enabled = s.enabled)
    (fun _ _ _ same moved => (enabled_step moved).trans same) rfl followed

variable {p : Provider} {result : Except Fault ResultMap} {events : List Event}

/-- Whose turn it is makes no difference to where a task is bound. -/
theorem Bound.step {s next : Sweeping} {q : Provider} (bound : s.Bound p result events)
    (moved : s.step q = some next) : next.Bound p result events := by
  obtain ⟨t, task, ends, shows⟩ := bound.task
  obtain ⟨t', still, same, split⟩ := step_task moved task
  exact ⟨enabled_step moved ▸ bound.enabled, t', still, same.trans ends, split.trans shows⟩

theorem Bound.follow {s next : Sweeping} {turns : List Provider} (bound : s.Bound p result events)
    (followed : s.follow turns = some next) : next.Bound p result events :=
  follow_preserves (P := fun u => u.Bound p result events)
    (fun _ _ _ bound moved => bound.step moved) bound followed

theorem Bound.seen {s : Sweeping} (bound : s.Bound p result events) : s.eventsOf p <+: events := by
  obtain ⟨t, -, -, rfl⟩ := bound.task
  exact List.prefix_append _ _

theorem Bound.results {s : Sweeping} {f : Fault} (bound : s.Bound p (.error f) events) :
    s.results? = none := by
  obtain ⟨t, task, ends, -⟩ := bound.task
  have going : t.value? = none := by
    cases ended : t.value? with
    | none => rfl
    | some found =>
        rw [Task.rest_of_value ended] at ends
        cases ends
  rw [results?, gathered?_eq_none bound.enabled task going]
  rfl

/-- A task that is bound to fail goes on until it has failed, and then all that it shows was seen. -/
theorem Bound.moves_or_fails {s : Sweeping} {f : Fault} (bound : s.Bound p (.error f) events) :
    (s.step p).isSome ∨ ((s.tasks p).bind Task.fault? = some f ∧ s.eventsOf p = events) := by
  obtain ⟨t, task, ends, shows⟩ := bound.task
  cases stepped : t.step with
  | some next => simp [Sweeping.step, task, stepped]
  | none =>
      obtain ⟨failed, silent⟩ := Task.fault_of_stopped stepped ends
      rw [silent, List.append_nil] at shows
      exact .inr ⟨by rw [task]; exact failed, shows⟩

/-- The fault of a task that has failed is what the task was bound to. -/
theorem Bound.fault {s : Sweeping} (bound : s.Bound p result events) {f : Fault}
    (failed : (s.tasks p).bind Task.fault? = some f) : result = .error f := by
  obtain ⟨t, task, ends, -⟩ := bound.task
  rw [task] at failed
  exact ends.symm.trans (Task.rest_of_fault failed)

end Sweeping
end DebridCache
