import DebridCache.Proofs.Availability.Steadfast
import DebridCache.Proofs.Interleaving
import DebridCache.Proofs.Sweep

/-!
Nothing that happens to one provider reaches another. In whatever order the checks of a sweep take their
turns, each provider has what its check finds when it is run alone, and nothing where that check fails.
-/

namespace DebridCache

/-- A check is tried with what it finds, with nothing where it fails, and withdrawn where it is withdrawn.
Nothing else is seen of it than of the check. -/
theorem Service.run_tryCheck_eq (s : Service) (p : Provider) (hashes : Value) (c : Client) :
    ((s.tryCheck p hashes).run c).result =
        (Exchange.caught ((s.check hashes).run c).result).map (·.toOption.getD []) ∧
      ((s.tryCheck p hashes).run c).events = ((s.check hashes).run c).events := by
  unfold tryCheck
  simp only [Exchange.bind_eq, Exchange.log, Exchange.bind, Exchange.run, Run.addEntry,
    Exchange.run_bind, Run.andThen, Exchange.run_attempt]
  cases Exchange.caught ((s.check hashes).run c).result with
  | error f => exact ⟨rfl, rfl⟩
  | ok found =>
      cases found with
      | ok results => exact ⟨rfl, List.append_nil _⟩
      | error f => exact ⟨rfl, List.append_nil _⟩

theorem Service.run_tryCheck (s : Service) (p : Provider) (hashes : Value) (c : Client)
    (met : ((s.check hashes).run c).result ≠ .error .cancelled) :
    ((s.tryCheck p hashes).run c).result = .ok (((s.check hashes).run c).result.toOption.getD []) ∧
      ((s.tryCheck p hashes).run c).events = ((s.check hashes).run c).events := by
  obtain ⟨result, events⟩ := s.run_tryCheck_eq p hashes c
  rw [Exchange.caught_eq met] at result
  exact ⟨result, events⟩

namespace Registry

/-- What a provider's check returns when it is run alone; nothing where it fails or there is no service. -/
def foundAlone (r : Registry) (hashes : Value) (p : Provider) : ResultMap :=
  match r.get? p with
  | none => []
  | some s => ((s.check hashes).run s.client).result.toOption.getD []

/-- What can be seen of a provider's check when it is run alone. -/
def shownAlone (r : Registry) (hashes : Value) (p : Provider) : List Event :=
  match r.get? p with
  | none => []
  | some s => ((s.check hashes).run s.client).events

theorem shownAlone_of_account {r : Registry} {p : Provider} {a : Account} {c : Client}
    (here : r.get? p = some (.ofAccount a c)) (hashes : Value) :
    r.shownAlone hashes p = ((a.check hashes).run c).events := by
  rw [shownAlone, here]
  rfl

/-- No service's check is withdrawn. -/
def Met (r : Registry) (hashes : Value) : Prop :=
  ∀ e ∈ r.services, ((e.2.check hashes).run e.2.client).result ≠ .error .cancelled

theorem mem_of_get? {r : Registry} {p : Provider} {s : Service} (here : r.get? p = some s) :
    (p, s) ∈ r.services := by
  obtain ⟨before, after, split, -⟩ := List.lookup_eq_some_iff.mp here
  rw [split]
  exact List.mem_append_right before List.mem_cons_self

theorem begin_onCourse {r : Registry} {hashes : Value} (met : hashes.truthy = true → r.Met hashes) :
    (r.begin hashes).OnCourse (fun p => if hashes.truthy then r.foundAlone hashes p else [])
      (fun p => if hashes.truthy then r.shownAlone hashes p else []) := by
  unfold begin
  cases asked : hashes.truthy with
  | false => exact ⟨fun p => by simp, fun p => ⟨rfl, rfl, rfl⟩⟩
  | true =>
      constructor
      · intro p
        simp [enabled, isEnabled, mem_all]
      · intro p
        simp only [if_true, foundAlone, shownAlone]
        cases here : r.get? p with
        | none => exact ⟨rfl, rfl, rfl⟩
        | some s => exact s.run_tryCheck p hashes s.client (met asked (p, s) (mem_of_get? here))

theorem lookup_runs (r : Registry) (hashes : Value) (p : Provider) :
    (r.runs hashes).lookup p = (r.get? p).map fun s => (s.tryCheck p hashes).run s.client :=
  lookup_map (fun p (s : Service) => (s.tryCheck p hashes).run s.client) r.services p

theorem resultsOf_runs {r : Registry} {hashes : Value} (met : r.Met hashes) (p : Provider) :
    resultsOf (r.runs hashes) p = r.foundAlone hashes p := by
  rw [resultsOf, lookup_runs, foundAlone]
  cases here : r.get? p with
  | none => rfl
  | some s =>
      have tried := (s.run_tryCheck p hashes s.client (met (p, s) (mem_of_get? here))).1
      simp only [Option.map_some, tried]
      rfl

/-- Whatever becomes of the sweep, what can be seen of a provider is what its check shows alone. -/
theorem sweep_events (r : Registry) (hashes : Value) (p : Provider) :
    ((r.sweep hashes).2.events.lookup p).getD [] =
      if hashes.truthy then r.shownAlone hashes p else [] := by
  have alone : (((r.runs hashes).map fun e => (e.1, e.2.events)).lookup p).getD [] =
      r.shownAlone hashes p := by
    rw [lookup_map (fun _ (run : Run ResultMap) => run.events), lookup_runs, shownAlone]
    cases r.get? p with
    | none => rfl
    | some s => exact (s.run_tryCheck_eq p hashes s.client).2
  cases asked : hashes.truthy with
  | false =>
      rw [sweep, if_pos (by simp [asked])]
      rfl
  | true =>
      by_cases empty : r.services = []
      · rw [sweep, if_pos (by simp [empty]), if_pos rfl, shownAlone, get?, empty]
        rfl
      · rw [sweep, if_neg (by simp [asked, empty]), if_pos rfl, ← alone]
        dsimp only
        cases firstFault (r.runs hashes) <;> rfl

theorem firstFault_runs {r : Registry} {hashes : Value} (met : r.Met hashes) :
    firstFault (r.runs hashes) = none := by
  apply firstFault_of_ok
  intro e member
  obtain ⟨⟨p, s⟩, held, rfl⟩ := List.mem_map.mp member
  exact ⟨_, (s.run_tryCheck p hashes s.client (met (p, s) held)).1⟩

/-- The sweep that asks one service after the other has what every check finds alone. -/
theorem sweep_alone {r : Registry} {hashes : Value} (met : hashes.truthy = true → r.Met hashes) :
    (r.sweep hashes).2.result = .ok (Provider.all.map fun p =>
      (p.key, if hashes.truthy then r.foundAlone hashes p else [])) := by
  cases asked : hashes.truthy with
  | false =>
      rw [sweep, if_pos (by simp [asked])]
      rfl
  | true =>
      by_cases empty : r.services = []
      · have absent (p : Provider) : r.get? p = none := by
          rw [get?, empty]
          rfl
        rw [sweep, if_pos (by simp [empty])]
        simp only [if_true, foundAlone, absent]
        rfl
      · rw [sweep, if_neg (by simp [asked, empty])]
        simp only [if_true, firstFault_runs (met asked), gathered, resultsOf_runs (met asked)]

theorem lookup_all (found : Provider → ResultMap) (p : Provider) :
    (Provider.all.map fun p => (p.key, found p)).lookup p.key = some (found p) := by
  cases p <;> rfl

/-- In whatever turns a sweep came to its results, each provider has in them what its check finds alone. -/
theorem results_follow {r : Registry} {hashes : Value} (met : hashes.truthy = true → r.Met hashes)
    {turns : List Provider} {s : Sweeping} {found : SweepResults}
    (followed : (r.begin hashes).follow turns = some s) (returned : s.results? = some found)
    (p : Provider) :
    found.lookup p.key = some (if hashes.truthy then r.foundAlone hashes p else []) ∧
      s.eventsOf p = if hashes.truthy then r.shownAlone hashes p else [] := by
  rcases ((begin_onCourse met).follow followed).1.ends_or_moves with ⟨results, shown⟩ | ⟨going, -⟩
  · rw [results] at returned
    cases returned
    exact ⟨lookup_all _ p, shown p⟩
  · rw [going] at returned
    cases returned

/-- Whatever turns the checks of a sweep take, each provider has what its own check finds and shows alone.
Turns come to an end, and until then some task can move. What becomes of one provider is nothing to the
others. -/
theorem sweep_interleaved {r : Registry} {hashes : Value} (met : r.Met hashes) :
    ∃ results : SweepResults,
      (r.sweep hashes).2.result = .ok results ∧
      results.map (·.1) = r.configured.map Provider.key ∧
      (∀ p, results.lookup p.key = some (if hashes.truthy then r.foundAlone hashes p else []) ∧
        ((r.sweep hashes).2.events.lookup p).getD [] =
          if hashes.truthy then r.shownAlone hashes p else []) ∧
      (∀ turns s, (r.begin hashes).follow turns = some s →
        turns.length ≤ (r.begin hashes).left ∧
        ((s.results? = some results ∧
            ∀ p, s.eventsOf p = if hashes.truthy then r.shownAlone hashes p else []) ∨
          (s.results? = none ∧ ∃ p, (s.step p).isSome))) ∧
      ∀ (other : Registry) (q : Provider), other.Met hashes →
        (∀ p, p ≠ q → other.get? p = r.get? p) →
        ∀ turns s found turns' s' found', (r.begin hashes).follow turns = some s →
          s.results? = some found → (other.begin hashes).follow turns' = some s' →
          s'.results? = some found' →
          ∀ p, p ≠ q → found'.lookup p.key = found.lookup p.key ∧ s'.eventsOf p = s.eventsOf p := by
  have result := sweep_alone fun _ => met
  refine ⟨_, result, rfl, fun p => ⟨lookup_all _ p, r.sweep_events hashes p⟩, ?_, ?_⟩
  · intro turns s followed
    obtain ⟨course, count⟩ := (begin_onCourse fun _ => met).follow followed
    exact ⟨by omega, course.ends_or_moves⟩
  · intro other q others same turns s found turns' s' found' followed returned followed' returned' p
      elsewhere
    have here := results_follow (fun _ => met) followed returned p
    have there := results_follow (fun _ => others) followed' returned' p
    rw [foundAlone, shownAlone] at here there
    rw [same p elsewhere] at there
    exact ⟨there.1.trans here.1.symm, there.2.trans here.2.symm⟩

def timingOut (p : Provider) : Service :=
  .ofAccount (Account.opened p (.str "key") .null 2 .half .null)
    ⟨false, [], .failed (.transport "ReadTimeout" "")⟩

def oneFailing : Registry where
  services := [(.realDebrid, (timingOut .realDebrid).failing (.brokenRuntime "broken")),
    (.torbox, timingOut .torbox)]

theorem sweep_interleaved_of_failing :
    ∃ results : SweepResults,
      (oneFailing.sweep (.arr (["AA", "bb"].map .str))).2.result = .ok results ∧
      results.lookup "realdebrid" = some [] ∧ results.lookup "alldebrid" = some [] ∧
      (results.lookup "torbox").map (·.map (·.1)) = some ["aa", "bb"] ∧
      ∀ turns s, (oneFailing.begin (.arr (["AA", "bb"].map .str))).follow turns = some s →
        s.results? = some results ∨ ∃ p, (s.step p).isSome := by
  have steady (p : Provider) : (timingOut p).client.Steady :=
    Client.steady_always (by intro same; cases same)
  have met : oneFailing.Met (.arr (["AA", "bb"].map .str)) := by
    intro e member
    rcases List.mem_cons.mp member with rfl | later
    · intro same
      cases same
    · cases List.mem_singleton.mp later
      exact (steady .torbox).run (Account.check_steadfast _ _)
  obtain ⟨results, result, -, parts, turns, -⟩ := sweep_interleaved met
  refine ⟨results, result, (parts .realDebrid).1, (parts .allDebrid).1, ?_, ?_⟩
  · have regular := Account.opened_regular .torbox (.str "key") .null 2 .half .null
    obtain ⟨found, checked, keys⟩ := Account.check_keys regular ["AA", "bb"] (steady .torbox)
    have here : oneFailing.get? .torbox = some (timingOut .torbox) := rfl
    have asked : (Value.arr (["AA", "bb"].map .str)).truthy = true := rfl
    have torbox := (parts .torbox).1
    rw [if_pos asked, foundAlone, here] at torbox
    change results.lookup "torbox" = some (Except.toOption _ |>.getD []) at torbox
    change (((timingOut .torbox).check _).run _).result = _ at checked
    rw [torbox, checked]
    exact congrArg some keys
  · intro taken s followed
    rcases (turns taken s followed).2 with ⟨returned, -⟩ | ⟨-, moves⟩
    · exact .inl returned
    · exact .inr moves

end Registry
end DebridCache
