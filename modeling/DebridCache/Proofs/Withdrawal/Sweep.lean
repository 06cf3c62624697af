import DebridCache.Proofs.Isolation
import DebridCache.Proofs.Withdrawal

/-!
Withdrawn sweeps. A sweep in which one provider's request is withdrawn is withdrawn as a whole, in
whatever order the checks take their turns, and nothing more is seen of that provider. A check that is
tried fails in no other way, so there is no other fault that could come out instead.
-/

namespace DebridCache

theorem Service.tryCheck_failsOnly (s : Service) (p : Provider) (hashes : Value) (c : Client) :
    FailsOnly (· = .cancelled) ((s.tryCheck p hashes).run c).result := by
  rw [(s.run_tryCheck_eq p hashes c).1]
  by_cases withdrawn : ((s.check hashes).run c).result = .error .cancelled
  · rw [withdrawn]
    exact .error rfl
  · rw [Exchange.caught_eq withdrawn]
    exact .ok _

theorem Service.run_tryCheck_withdrawn {s : Service} {hashes : Value} {c : Client}
    (withdrawn : ((s.check hashes).run c).result = .error .cancelled) (p : Provider) :
    ((s.tryCheck p hashes).run c).result = .error .cancelled := by
  rw [(s.run_tryCheck_eq p hashes c).1, withdrawn]
  rfl

namespace Registry

theorem firstFault_eq {runs : List (Provider × Run ResultMap)} {f : Fault}
    (only : ∀ e ∈ runs, FailsOnly (· = f) e.2.result)
    (failed : ∃ e ∈ runs, e.2.result = .error f) : firstFault runs = some f := by
  induction runs with
  | nil =>
      obtain ⟨e, member, -⟩ := failed
      cases member
  | cons first rest ih =>
      rw [firstFault]
      cases result : first.2.result with
      | error g => exact congrArg some (only first List.mem_cons_self g result)
      | ok found =>
          obtain ⟨e, member, bad⟩ := failed
          rcases List.mem_cons.mp member with rfl | later
          · rw [result] at bad
            cases bad
          · exact ih (fun e member => only e (List.mem_cons_of_mem first member)) ⟨e, later, bad⟩

/-- One check that is withdrawn withdraws the sweep. -/
theorem sweep_withdrawn {r : Registry} {hashes : Value} (asked : hashes.truthy = true)
    {p : Provider} {s : Service} (held : (p, s) ∈ r.services)
    (withdrawn : ((s.check hashes).run s.client).result = .error .cancelled) :
    (r.sweep hashes).2.result = .error .cancelled := by
  have fault : firstFault (r.runs hashes) = some .cancelled := by
    apply firstFault_eq
    · intro e member
      obtain ⟨⟨q, t⟩, -, rfl⟩ := List.mem_map.mp member
      exact t.tryCheck_failsOnly q hashes t.client
    · exact ⟨_, List.mem_map_of_mem held, Service.run_tryCheck_withdrawn withdrawn p⟩
  rw [sweep, if_neg (by simp [asked, List.ne_nil_of_mem held])]
  simp only [fault]

theorem begin_bound {r : Registry} {hashes : Value} (asked : hashes.truthy = true) {p : Provider}
    {s : Service} (here : r.get? p = some s) :
    (r.begin hashes).Bound p ((s.tryCheck p hashes).run s.client).result
      ((s.check hashes).run s.client).events := by
  rw [begin, if_pos asked]
  constructor
  · simp [enabled, isEnabled, mem_all, here]
  · refine ⟨.start (s.tryCheck p hashes) s.client, by simp [here], rfl, ?_⟩
    exact (s.run_tryCheck_eq p hashes s.client).2

/-- Whatever was done of a sweep, a task that ended badly was withdrawn. -/
theorem fault_follow {r : Registry} {hashes : Value} (asked : hashes.truthy = true)
    {turns : List Provider} {u : Sweeping} (followed : (r.begin hashes).follow turns = some u)
    {p : Provider} (member : p ∈ u.enabled) {f : Fault}
    (failed : (u.tasks p).bind Task.fault? = some f) : f = .cancelled := by
  rw [Sweeping.enabled_follow followed, begin, if_pos asked] at member
  obtain ⟨s, here⟩ := Option.isSome_iff_exists.mp (List.mem_filter.mp member).2
  have bound := (begin_bound asked here).follow followed
  exact s.tryCheck_failsOnly p hashes s.client f (bound.fault failed)

/-- A sweep underway that is to be withdrawn never has results. It goes on with the task that is withdrawn
until that has shown all it has to show, and then the fault is the sweep's. -/
theorem withdrawn_follow {r : Registry} {hashes : Value} (asked : hashes.truthy = true) {p : Provider}
    {s : Service} (here : r.get? p = some s)
    (withdrawn : ((s.check hashes).run s.client).result = .error .cancelled) {turns : List Provider}
    {u : Sweeping} (followed : (r.begin hashes).follow turns = some u) :
    u.results? = none ∧ u.eventsOf p <+: ((s.check hashes).run s.client).events ∧
      ((u.step p).isSome ∨
        (u.fault? = some .cancelled ∧ u.eventsOf p = ((s.check hashes).run s.client).events)) := by
  have bound := (begin_bound asked here).follow followed
  rw [Service.run_tryCheck_withdrawn withdrawn] at bound
  refine ⟨bound.results, bound.seen, ?_⟩
  rcases bound.moves_or_fails with moves | ⟨failed, shown⟩
  · exact .inl moves
  · refine .inr ⟨?_, shown⟩
    cases found : u.fault? with
    | none =>
        rw [List.findSome?_eq_none_iff.mp found p bound.enabled] at failed
        cases failed
    | some f =>
        obtain ⟨q, member, bad⟩ := List.exists_of_findSome?_eq_some found
        rw [fault_follow asked followed member bad]

end Registry

/-- Nothing swallows a withdrawal: not a check, not an action, not the completion of a pair of identifiers,
and not a sweep, whichever provider's request is withdrawn and in whatever order the checks take turns. The
request is the last that is seen of the work, in a sweep the last of its provider. -/
theorem withdrawal_reaches_caller :
    (∀ (a : Account) (input : Value), (a.check input).StopsWithdrawn) ∧
    (∀ (a : Account) (action : Action), (a.act action).StopsWithdrawn) ∧
    (∀ (db : TitleDatabase) (pair : IdentifierPair), (db.resolve pair).StopsWithdrawn) ∧
    (∀ (db : TitleDatabase) (imdb tmdb kind : Value), (db.complete imdb tmdb kind).StopsWithdrawn) ∧
    ∀ (r : Registry) (hashes : Value) (p : Provider) (s : Service) (index : Nat),
      r.get? p = some s → s.check = s.account.check →
      s.client.script.outcomeAt index = .failed .cancelled →
      index < (requestsOf (((r.sweep hashes).2.events.lookup p).getD [])).length →
      (r.sweep hashes).2.result = .error .cancelled ∧
      EndsAt (((r.sweep hashes).2.events.lookup p).getD []) index ∧
      ∀ turns u, (r.begin hashes).follow turns = some u →
        u.results? = none ∧
        u.eventsOf p <+: ((r.sweep hashes).2.events.lookup p).getD [] ∧
        ((u.step p).isSome ∨ (u.fault? = some .cancelled ∧
          u.eventsOf p = ((r.sweep hashes).2.events.lookup p).getD [])) := by
  have checks (a : Account) (input : Value) : (a.check input).StopsWithdrawn :=
    (a.check_yields input).stops
  have acts (a : Account) (action : Action) : (a.act action).StopsWithdrawn :=
    (a.act_composed action).yields.stops
  have resolves (db : TitleDatabase) (pair : IdentifierPair) : (db.resolve pair).StopsWithdrawn :=
    (db.resolve_composed pair).yields.stops
  refine ⟨checks, acts, resolves, fun db imdb tmdb kind => resolves db _, ?_⟩
  intro r hashes p s index here own withdrawn sent
  rw [r.sweep_events] at sent ⊢
  cases asked : hashes.truthy with
  | false =>
      rw [asked] at sent
      cases sent
  | true =>
      have alone : r.shownAlone hashes p = ((s.check hashes).run s.client).events := by
        rw [Registry.shownAlone, here]
      rw [asked, if_pos rfl, alone] at sent
      have yields : (s.check hashes).Yields := by
        rw [own]
        exact s.account.check_yields hashes
      obtain ⟨result, ends⟩ := yields.stops s.client index withdrawn sent
      rw [if_pos rfl, alone]
      refine ⟨Registry.sweep_withdrawn asked (Registry.mem_of_get? here) result, ends, ?_⟩
      intro turns u followed
      exact Registry.withdrawn_follow asked here result followed

def Account.oneByOne : Account := ⟨.realDebrid, .str "key", .null, .int 1, .float .half, .null⟩

/-- A transport that withdraws every request but the first. -/
def Client.secondWithdrawn : Client := ⟨false, [.answered ⟨500, [], 1000⟩], .failed .cancelled⟩

def Registry.secondWithdrawn : Registry where
  services := [(.realDebrid, .ofAccount .oneByOne .secondWithdrawn), (.torbox, timingOut .torbox)]

theorem Account.dialogue_secondWithdrawn :
    1 < ((oneByOne.check (.arr (["aa", "bb", "cc"].map .str))).dialogue .secondWithdrawn).length := by
  have regular : oneByOne.Regular :=
    ⟨.inr ⟨1, by decide, rfl⟩, ⟨.half, rfl⟩, fun _ => ⟨1, by decide, rfl⟩⟩
  have batches : oneByOne.batches (Hash.asked ["aa", "bb", "cc"]) = [["aa"], ["bb"], ["cc"]] := by
    have asked : Hash.asked ["aa", "bb", "cc"] = ["aa", "bb", "cc"] := rfl
    simp [asked, Account.batches, stride, oneByOne, Batch.chunks_cons]
  have reaches : oneByOne.Reaches .secondWithdrawn :=
    ⟨rfl, checkHeader_authorization rfl (Wire.forall_of_all (by decide)), Nat.zero_le _⟩
  have sendable (h : String) (plain : Hash.Plain h) :
      ∃ sent, (oneByOne.question [h]).prepare = .ok sent :=
    question_sendable reaches (fun _ => by simp) (by simpa using plain)
  obtain ⟨first, prepared⟩ := sendable "aa" (by decide)
  obtain ⟨second, prepared'⟩ := sendable "bb" (by decide)
  have met : Client.secondWithdrawn.ask (oneByOne.question ["aa"]) ≠ .failed .cancelled := by
    rw [Client.ask, prepared]
    exact Wire.Outcome.met_of_answered rfl
  have asked := (asking_prefix_check regular batches met).length_le
  rw [Client.asking, Client.afterAsk, Client.asking, prepared, prepared'] at asked
  exact asked

theorem withdrawal_reaches_caller_of_second :
    (Registry.secondWithdrawn.sweep (.arr (["aa", "bb", "cc"].map .str))).2.result =
      .error .cancelled ∧
    EndsAt (((Registry.secondWithdrawn.sweep (.arr (["aa", "bb", "cc"].map .str))).2.events.lookup
      .realDebrid).getD []) 1 ∧
    ∀ turns u, (Registry.secondWithdrawn.begin (.arr (["aa", "bb", "cc"].map .str))).follow turns =
      some u → u.results? = none := by
  have sent : 1 < (requestsOf (((Registry.secondWithdrawn.sweep
      (.arr (["aa", "bb", "cc"].map .str))).2.events.lookup .realDebrid).getD [])).length := by
    have asked := Account.dialogue_secondWithdrawn
    rw [← List.length_map (Prod.fst), ← Exchange.requests_events] at asked
    have given : (Value.arr (["aa", "bb", "cc"].map .str)).truthy = true := rfl
    have here : Registry.secondWithdrawn.get? .realDebrid =
      some (.ofAccount .oneByOne .secondWithdrawn) := rfl
    rw [Registry.sweep_events, if_pos given, Registry.shownAlone_of_account here]
    exact asked
  obtain ⟨-, -, -, -, swept⟩ := withdrawal_reaches_caller
  obtain ⟨result, ends, turns⟩ := swept Registry.secondWithdrawn (.arr (["aa", "bb", "cc"].map .str))
    .realDebrid (.ofAccount .oneByOne .secondWithdrawn) 1 rfl rfl rfl sent
  exact ⟨result, ends, fun taken u followed => (turns taken u followed).1⟩

end DebridCache
