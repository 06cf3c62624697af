import Mathlib.Data.List.Forall2
import DebridCache.Proofs.Action
import DebridCache.Proofs.Availability.Totality
import DebridCache.Proofs.Composed
import DebridCache.Proofs.Registry
import DebridCache.Proofs.Session

/-!
Closing. On a closed client no request goes out, so its transport keeps all that it has in store. A check
bears that batch by batch and leaves every hash uncached; an action, which is one call at most, fails. What
operations do to a closed client they therefore do to it for ever.
-/

namespace DebridCache

open Wire (Sent Outcome Request)

namespace Client

variable {c : Client}

theorem afterAsk_closed (closed : c.isClosed = true) (r : Request) : c.afterAsk r = c := by
  unfold afterAsk next
  rw [if_pos closed]
  split <;> rfl

theorem ask_closed (closed : c.isClosed = true) (r : Request) :
    ∃ f, c.ask r = .failed f ∧ f ≠ .cancelled := by
  have fails : c.reply = .failed .clientClosed := if_pos closed
  cases asked : c.ask r with
  | failed f =>
      refine ⟨f, rfl, ?_⟩
      rintro rfl
      have withdrawn := (asking_of_cancelled asked).1
      rw [fails] at withdrawn
      cases withdrawn
  | answered response =>
      unfold ask at asked
      rw [fails] at asked
      split at asked <;> cases asked

theorem close_closed (closed : c.isClosed = true) : c.close = c := by
  obtain ⟨isClosed, script⟩ := c
  cases closed
  rfl

end Client

/-- Whatever is done with a closed client, it stays as it is and no request is seen. -/
theorem Exchange.run_closed {α : Type} {c : Client} (closed : c.isClosed = true) (x : Exchange α) :
    (x.run c).client = c ∧ requestsOf (x.run c).events = [] := by
  induction x with
  | done a => exact ⟨rfl, rfl⟩
  | fail f => exact ⟨rfl, rfl⟩
  | send r next ih =>
      rw [run, if_pos closed]
      exact ih _
  | sleep d next ih => exact ih
  | note e next ih => exact ih

namespace Account

variable {a : Account} {c : Client}

theorem outcomes_closed (closed : c.isClosed = true) (bs : List (List String)) :
    ∀ o ∈ a.outcomes c bs, ∃ f, o = .failed f ∧ f ≠ .cancelled := by
  induction bs with
  | nil =>
      intro o member
      cases member
  | cons b bs ih =>
      intro o member
      rw [outcomes, Client.afterAsk_closed closed] at member
      rcases List.mem_cons.mp member with rfl | later
      · exact Client.ask_closed closed _
      · exact ih o later

/-- On a closed client a check leaves every hash that its input asks for uncached. -/
theorem check_closed (regular : a.Regular) (closed : c.isClosed = true) (input : Value) :
    ((a.check input).run c).result = (Hash.unique input).map a.unknown := by
  unfold check
  cases asked : Hash.unique input with
  | error f => rfl
  | ok hashes =>
      cases hashes with
      | nil => rfl
      | cons h hs =>
          have failed := a.outcomes_closed closed (a.batches (h :: hs))
          have met : ∀ o ∈ a.outcomes c (a.batches (h :: hs)), o ≠ .failed .cancelled := by
            rintro o member rfl
            obtain ⟨f, same, kept⟩ := failed _ member
            cases same
            exact kept rfl
          have ends := checkHashes_ends regular (List.cons_ne_nil h hs) (Hash.nodup_unique asked) met
          refine ends.result.trans (congrArg Except.ok ?_)
          rw [a.reference_of_failed (a.length_outcomes c _), flatten_batches regular.size]
          intro o member
          obtain ⟨f, rfl, -⟩ := failed o member
          trivial

/-- On a closed client every action fails. -/
theorem act_closed (closed : c.isClosed = true) (action : Action) :
    ∃ f, ((a.act action).run c).result = .error f := by
  rcases act_shape a.provider action with ⟨f, fails⟩ | ⟨method, endpoint, accepted, payload, _, -, calls⟩
  · rw [fails a rfl]
    exact ⟨f, rfl⟩
  · obtain ⟨f, failed, kept⟩ := Client.ask_closed closed (a.request method endpoint payload)
    have met : c.ask (a.request method endpoint payload) ≠ .failed .cancelled := by
      rw [failed]
      exact fun same => kept (Outcome.failed.inj same)
    obtain ⟨g, refused⟩ : ∃ g, a.submitted (.failed f) = .error g := by
      cases f <;> exact ⟨_, rfl⟩
    have called := a.call_ends method endpoint accepted payload met
    rw [failed, refused] at called
    rw [show a.act action = _ from calls a rfl]
    exact ⟨g, called.bind_error.result⟩

end Account

/-- What is reported of an operation on a closed client: no request, nothing known and nothing done. -/
inductive Account.Idle (a : Account) : Operation → Report → Prop
  | check (input : Value) {events : List Event} {entries : List Entry} (silent : requestsOf events = []) :
    Idle a (.check input) (.single (((Hash.unique input).map a.unknown).map .statuses) events entries)
  | act (action : Action) (f : Fault) {events : List Event} {entries : List Entry}
    (silent : requestsOf events = []) : Idle a (.act action) (.single (.error f) events entries)
  | inspect : Idle a .inspect (.single (.ok (.account a true)) [] [])
  | close : Idle a .close (.single (.ok .nothing) [] [])
  | unsupported (member : String) :
    Idle a (.unsupported member) (.single (.error (.noMember a.provider.serviceName member)) [] [])
  | scope {inner : List Operation} {reports : List Report} (each : List.Forall₂ (Idle a) inner reports) :
    Idle a (.scope inner) (.scope reports)

namespace Session

variable {a : Account} {s : Session}

theorem close_closed (closed : s.client.isClosed = true) : s.close = s := by
  rw [close, Client.close_closed closed]

theorem work_closed {α : Type} (closed : s.client.isClosed = true) (x : Exchange α) (reply : α → Reply) :
    s.work x reply = (s, .single ((x.run s.client).result.map reply) (x.run s.client).events
      (x.run s.client).entries) := by
  rw [work, (x.run_closed closed).1]

theorem performAll_idle {ops : List Operation}
    (each : ∀ o ∈ ops, ∃ report, s.perform o = (s, report) ∧ a.Idle o report) :
    ∃ reports, s.performAll ops = (s, reports) ∧ List.Forall₂ a.Idle ops reports := by
  induction ops with
  | nil => exact ⟨[], by rw [performAll], .nil⟩
  | cons o os ih =>
      obtain ⟨report, performed, idle⟩ := each o List.mem_cons_self
      obtain ⟨reports, rest, idles⟩ := ih fun p later => each p (List.mem_cons_of_mem o later)
      refine ⟨report :: reports, ?_, .cons idle idles⟩
      rw [performAll_cons, performed, rest]

/-- One operation with a closed client: nothing changes, whatever it is. -/
theorem perform_closed (regular : s.account.Regular) (closed : s.client.isClosed = true) {o : Operation}
    (keeps : o.Keeps) : ∃ report, s.perform o = (s, report) ∧ s.account.Idle o report := by
  induction keeps with
  | check input =>
      have worked := work_closed closed (s.account.check input) .statuses
      rw [Account.check_closed regular closed] at worked
      exact ⟨_, by rw [perform, worked], .check input ((s.account.check input).run_closed closed).2⟩
  | act action =>
      obtain ⟨f, failed⟩ := s.account.act_closed closed action
      have worked := work_closed closed (s.account.act action) .value
      rw [failed] at worked
      exact ⟨_, by rw [perform, worked]; rfl, .act action f ((s.account.act action).run_closed closed).2⟩
  | inspect =>
      refine ⟨_, ?_, .inspect⟩
      rw [perform, closed]
  | close =>
      refine ⟨_, ?_, .close⟩
      rw [perform, close_closed closed]
  | unsupported member => exact ⟨_, by rw [perform], .unsupported member⟩
  | scope each ih =>
      obtain ⟨reports, performed, idle⟩ := performAll_idle ih
      refine ⟨_, ?_, .scope idle⟩
      rw [perform, within, performed]
      exact congrArg (·, _) (close_closed closed)

/-- A scope whose body does some operations and then ends with or without a fault. -/
def leave (s : Session) (inner : List Operation) (ended : Except Fault Unit) :
    Session × Except Fault Unit := s.within fun s => ((s.performAll inner).1, ended)

/-- The ways in which a session is closed. -/
inductive Closes (s : Session) : Session → Prop
  | close : s.Closes (s.perform .close).1
  | scope {inner : List Operation} (keeps : ∀ o ∈ inner, o.Keeps) : s.Closes (s.perform (.scope inner)).1
  | leave {inner : List Operation} (keeps : ∀ o ∈ inner, o.Keeps) (ended : Except Fault Unit) :
    s.Closes (s.leave inner ended).1

theorem Closes.account {t : Session} (closes : s.Closes t) : t.account = s.account := by
  cases closes with
  | close =>
      rw [perform]
      rfl
  | scope keeps =>
      rw [perform]
      exact performAll_account keeps s
  | leave keeps ended => exact performAll_account keeps s

theorem Closes.closed {t : Session} (closes : s.Closes t) : t.client.isClosed = true := by
  cases closes with
  | close =>
      rw [perform]
      rfl
  | scope keeps =>
      rw [perform]
      rfl
  | leave keeps ended => rfl

/-- Nothing that is done with a closed session changes it. -/
theorem performAll_closed (regular : s.account.Regular) (closed : s.client.isClosed = true)
    {ops : List Operation} (keeps : ∀ o ∈ ops, o.Keeps) :
    ∃ reports, s.performAll ops = (s, reports) ∧ List.Forall₂ s.account.Idle ops reports :=
  performAll_idle fun o member => perform_closed regular closed (keeps o member)

end Session

/-- Opened with a whole number for a batch size and a delay in floating point. -/
def Account.Opened (a : Account) : Prop :=
  ∃ p credential timeout size delay agent,
    Account.create p ⟨credential, timeout, .int size, .float delay, agent⟩ = .ok a

theorem Account.Opened.regular {a : Account} (opened : a.Opened) : a.Regular := by
  obtain ⟨p, credential, timeout, size, delay, agent, created⟩ := opened
  rw [create_eq_opened] at created
  cases created
  exact opened_regular ..

namespace Registry

variable {accounts : List (Provider × Account)} {client : Provider → Client}

def serving (accounts : List (Provider × Account)) (client : Provider → Client) : Registry :=
  ⟨accounts.map fun e => (e.1, .ofAccount e.2 (client e.1))⟩

def unknown (accounts : List (Provider × Account)) (hashes : Value) : SweepResults :=
  Provider.all.map fun p => (p.key, match accounts.lookup p with
    | some a => a.unknown ((Hash.unique hashes).toOption.getD [])
    | none => [])

inductive Idle (accounts : List (Provider × Account)) : RegistryOperation → RegistryReport → Prop
  | sweep (hashes : Value) {events : List (Provider × List Event)} {entries : List Entry}
    (silent : ∀ e ∈ events, requestsOf e.2 = []) :
    Idle accounts (.sweep hashes) ⟨.ok (.swept (unknown accounts hashes)), events, entries⟩
  | other {o : RegistryOperation} (other : ∀ hashes, o ≠ .sweep hashes)
    (result : Except Fault RegistryReply) : Idle accounts o ⟨result, [], []⟩

theorem get?_serving (p : Provider) :
    (serving accounts client).get? p = (accounts.lookup p).map fun a => .ofAccount a (client p) :=
  lookup_map (fun p a => Service.ofAccount a (client p)) accounts p

theorem close_serving :
    (serving accounts client).close = serving accounts fun p => (client p).close := by
  unfold close serving
  rw [List.map_map]
  rfl

theorem afterRuns_serving (runs : List (Provider × Run ResultMap)) :
    (serving accounts client).afterRuns runs =
      serving accounts fun p => ((runs.lookup p).map (·.client)).getD (client p) := by
  unfold afterRuns serving
  rw [List.map_map]
  apply congrArg Registry.mk
  apply List.map_congr_left
  intro e _
  dsimp only [Function.comp]
  cases runs.lookup e.1 <;> rfl

theorem serving_congr {client' : Provider → Client} (same : ∀ e ∈ accounts, client' e.1 = client e.1) :
    serving accounts client' = serving accounts client := by
  apply congrArg Registry.mk
  apply List.map_congr_left
  intro e member
  rw [same e member]

/-- A sweep does nothing, or all that its checks do. -/
theorem sweep_cases (r : Registry) (hashes : Value) :
    ((r.sweep hashes).1 = r ∧ (r.sweep hashes).2.events = []) ∨
      ((r.sweep hashes).1 = r.afterRuns (r.runs hashes) ∧
        (r.sweep hashes).2.events = (r.runs hashes).map fun e => (e.1, e.2.events)) := by
  unfold sweep
  split
  · exact .inl ⟨rfl, rfl⟩
  · dsimp only
    split <;> exact .inr ⟨rfl, rfl⟩

theorem sweep_serving (hashes : Value) :
    ∃ client', ((serving accounts client).sweep hashes).1 = serving accounts client' := by
  rcases (serving accounts client).sweep_cases hashes with ⟨still, -⟩ | ⟨after, -⟩
  · exact ⟨client, still⟩
  · exact ⟨_, after.trans (afterRuns_serving _)⟩

section Closed

variable (closed : ∀ e ∈ accounts, (client e.1).isClosed = true)
include closed

theorem close_closed : (serving accounts client).close = serving accounts client := by
  rw [close_serving]
  exact serving_congr fun e member => Client.close_closed (closed e member)

/-- A sweep of a closed registry leaves every client as it is, and no request is seen of it. -/
theorem sweep_closed (hashes : Value) :
    ((serving accounts client).sweep hashes).1 = serving accounts client ∧
      ∀ e ∈ ((serving accounts client).sweep hashes).2.events, requestsOf e.2 = [] := by
  rcases (serving accounts client).sweep_cases hashes with ⟨still, none⟩ | ⟨after, events⟩
  · rw [still, none]
    exact ⟨rfl, fun e member => absurd member List.not_mem_nil⟩
  · rw [after, events, afterRuns_serving]
    constructor
    · apply serving_congr
      intro e member
      rw [lookup_runs, get?_serving]
      cases accounts.lookup e.1 with
      | none => rfl
      | some a => exact (Exchange.run_closed (closed e member) _).1
    · intro shown member
      obtain ⟨run, ran, rfl⟩ := List.mem_map.mp member
      obtain ⟨service, served, rfl⟩ := List.mem_map.mp ran
      obtain ⟨e, held, rfl⟩ := List.mem_map.mp served
      exact (Exchange.run_closed (closed e held) _).2

theorem foundAlone_closed (regular : ∀ e ∈ accounts, e.2.Regular) (hashes : Value) (p : Provider) :
    (serving accounts client).foundAlone hashes p = match accounts.lookup p with
      | some a => a.unknown ((Hash.unique hashes).toOption.getD [])
      | none => [] := by
  rw [foundAlone, get?_serving]
  cases held : accounts.lookup p with
  | none => rfl
  | some a =>
      obtain ⟨before, after, split, -⟩ := List.lookup_eq_some_iff.mp held
      have member : (p, a) ∈ accounts := split ▸ List.mem_append_right before List.mem_cons_self
      show ((a.check hashes).run (client p)).result.toOption.getD [] = _
      rw [Account.check_closed (regular _ member) (closed _ member)]
      cases Hash.unique hashes <;> rfl

/-- A sweep of a closed registry still has complete results. -/
theorem result_closed (regular : ∀ e ∈ accounts, e.2.Regular) (hashes : Value) :
    ((serving accounts client).sweep hashes).2.result = .ok (unknown accounts hashes) := by
  have met : (serving accounts client).Met hashes := by
    intro served member
    obtain ⟨e, held, rfl⟩ := List.mem_map.mp member
    show ((e.2.check hashes).run (client e.1)).result ≠ _
    rw [Account.check_closed (regular e held) (closed e held)]
    intro withdrawn
    exact (Hash.unique_failsOnly hashes).map _ _ withdrawn rfl
  rw [sweep_alone fun _ => met, unknown]
  refine congrArg Except.ok (List.map_congr_left fun p _ => ?_)
  cases asked : hashes.truthy with
  | true => rw [if_pos rfl, foundAlone_closed closed regular]
  | false =>
      have none : Hash.unique hashes = .ok [] := if_neg (by simp [asked])
      rw [none]
      cases accounts.lookup p <;> rfl

end Closed
end Registry

namespace RegistrySession

variable {accounts : List (Provider × Account)} {client : Provider → Client} {s : RegistrySession}

def leave (s : RegistrySession) (inner : List RegistryOperation) (ended : Except Fault Unit) :
    RegistrySession × Except Fault Unit := s.within fun s => ((s.performAll inner).1, ended)

/-- The ways in which a registry is closed. -/
inductive Closes (s : RegistrySession) : RegistrySession → Prop
  | close : s.Closes (s.perform .close).1
  | scope : s.Closes (s.perform .scope).1
  | leave (inner : List RegistryOperation) (ended : Except Fault Unit) : s.Closes (s.leave inner ended).1

theorem perform_serving (o : RegistryOperation) (held : ∃ client, s.registry = .serving accounts client) :
    ∃ client, (s.perform o).1.registry = .serving accounts client := by
  obtain ⟨client, own⟩ := held
  cases o with
  | sweep hashes =>
      show ∃ client, (s.registry.sweep hashes).1 = _
      rw [own]
      exact Registry.sweep_serving hashes
  | close => exact ⟨_, (congrArg Registry.close own).trans Registry.close_serving⟩
  | scope => exact ⟨_, (congrArg Registry.close own).trans Registry.close_serving⟩
  | _ => exact ⟨client, own⟩

theorem performAll_serving (ops : List RegistryOperation)
    (held : ∃ client, s.registry = .serving accounts client) :
    ∃ client, (s.performAll ops).1.registry = .serving accounts client := by
  induction ops generalizing s with
  | nil => exact held
  | cons o os ih => exact ih (perform_serving o held)

theorem Closes.closed {t : RegistrySession} (closes : s.Closes t)
    (held : ∃ client, s.registry = .serving accounts client) :
    ∃ client, t.registry = .serving accounts client ∧ ∀ p, (client p).isClosed = true := by
  have closing {s : RegistrySession} (held : ∃ client, s.registry = .serving accounts client) :
      ∃ client, s.close.registry = .serving accounts client ∧ ∀ p, (client p).isClosed = true := by
    obtain ⟨client, own⟩ := held
    exact ⟨_, (congrArg Registry.close own).trans Registry.close_serving, fun p => rfl⟩
  cases closes with
  | close => exact closing held
  | scope => exact closing held
  | leave inner ended => exact closing (performAll_serving inner held)

theorem perform_closed (own : s.registry = .serving accounts client)
    (closed : ∀ e ∈ accounts, (client e.1).isClosed = true) (regular : ∀ e ∈ accounts, e.2.Regular)
    (o : RegistryOperation) :
    (s.perform o).1.registry = .serving accounts client ∧ Registry.Idle accounts o (s.perform o).2 := by
  have again : s.registry.close = .serving accounts client := by
    rw [own, Registry.close_closed closed]
  cases o with
  | sweep hashes =>
      show (s.registry.sweep hashes).1 = _ ∧
        Registry.Idle accounts _ ⟨(s.registry.sweep hashes).2.result.map .swept, _, _⟩
      obtain ⟨still, silent⟩ := Registry.sweep_closed closed hashes
      rw [own, Registry.result_closed closed regular]
      exact ⟨still, .sweep hashes silent⟩
  | close => exact ⟨again, .other (by simp) _⟩
  | scope => exact ⟨again, .other (by simp) _⟩
  | _ => exact ⟨own, .other (by simp) _⟩

theorem performAll_closed (own : s.registry = .serving accounts client)
    (closed : ∀ e ∈ accounts, (client e.1).isClosed = true) (regular : ∀ e ∈ accounts, e.2.Regular)
    (ops : List RegistryOperation) :
    (s.performAll ops).1.registry = .serving accounts client ∧
      List.Forall₂ (Registry.Idle accounts) ops (s.performAll ops).2 := by
  induction ops generalizing s with
  | nil => exact ⟨own, .nil⟩
  | cons o os ih =>
      obtain ⟨still, idle⟩ := perform_closed own closed regular o
      obtain ⟨rest, idles⟩ := ih still
      exact ⟨rest, .cons idle idles⟩

end RegistrySession

/-- Once an account's client is closed, by whatever way and after whatever was done with it, nothing that
is done with it changes it: no request is seen and its transport keeps all that it has in store; a check
finds every hash uncached and every action fails. The same holds of all accounts of a registry, one by one
and in sweeps, whose results are complete. A fault that leaves the scope goes on to the caller. -/
theorem closing_is_final :
    (∀ a : Account, a.Opened → ∀ c before closed, (∀ o ∈ before, o.Keeps) →
      (Session.performAll ⟨a, c⟩ before).1.Closes closed →
      closed.account = a ∧ closed.client.isClosed = true ∧ closed.close = closed ∧
      ∀ after, (∀ o ∈ after, o.Keeps) →
        ∃ reports, closed.performAll after = (closed, reports) ∧ List.Forall₂ a.Idle after reports) ∧
    (∀ accounts : List (Provider × Account), (∀ e ∈ accounts, e.2.Opened) → ∀ client last before closed,
      (RegistrySession.performAll ⟨.serving accounts client, last⟩ before).1.Closes closed →
      ∃ client', closed.registry = .serving accounts client' ∧ (∀ p, (client' p).isClosed = true) ∧
        closed.close = closed ∧
        (∀ after, (closed.performAll after).1.registry = closed.registry ∧
          List.Forall₂ (Registry.Idle accounts) after (closed.performAll after).2) ∧
        ∀ e ∈ accounts, ∀ after, (∀ o ∈ after, o.Keeps) → ∃ reports,
          Session.performAll ⟨e.2, client' e.1⟩ after = (⟨e.2, client' e.1⟩, reports) ∧
            List.Forall₂ e.2.Idle after reports) ∧
    (∀ texts : List String, Hash.unique (.arr (texts.map .str)) = .ok (Hash.asked texts)) ∧
    (∀ (s : Session) inner ended, (s.leave inner ended).2 = ended) ∧
    ∀ (s : RegistrySession) inner ended, (s.leave inner ended).2 = ended := by
  refine ⟨?_, ?_, Hash.unique_texts, fun s inner ended => rfl, fun s inner ended => rfl⟩
  · intro a opened c before closed keeps closes
    have own : closed.account = a := closes.account.trans (Session.performAll_account keeps _)
    refine ⟨own, closes.closed, Session.close_closed closes.closed, fun after kept => ?_⟩
    have regular : closed.account.Regular := own ▸ opened.regular
    have idle := Session.performAll_closed regular closes.closed kept
    rwa [own] at idle
  · intro accounts opened client last before closed closes
    have regular : ∀ e ∈ accounts, e.2.Regular := fun e member => (opened e member).regular
    obtain ⟨client', own, shut⟩ := closes.closed (RegistrySession.performAll_serving before ⟨client, rfl⟩)
    have shutAll : ∀ e ∈ accounts, (client' e.1).isClosed = true := fun e _ => shut e.1
    refine ⟨client', own, shut, ?_, fun after => ?_, fun e member after kept => ?_⟩
    · rw [RegistrySession.close, own, Registry.close_closed shutAll, ← own]
    · rw [own]
      exact RegistrySession.performAll_closed own shutAll regular after
    · exact Session.performAll_closed (s := ⟨e.2, client' e.1⟩) (regular e member) (shut e.1) kept

theorem Account.oneByOne_opened : oneByOne.Opened := by
  refine ⟨.realDebrid, .str "key", .null, 1, .half, .null, ?_⟩
  have kept : keptDelay .half = .half := by
    unfold keptDelay minBatchDelay
    split <;> rfl
  rw [create_eq_opened, opened, kept]
  rfl

/-- A check in two batches after a scope was left with a fault, and a sweep after a registry was closed. -/
theorem closing_is_final_of_two :
    (∃ closed events entries, (Session.performAll ⟨.oneByOne, .secondWithdrawn⟩
        [.check (.arr [.str "aa"])]).1.leave [.act .userInfo] (.error (.unreadable [])) =
          (closed, .error (.unreadable [])) ∧
      closed.performAll [.check (.arr (["AA ", "bb"].map .str))] = (closed, [.single (.ok (.statuses
        [("aa", .uncached "Real-Debrid"), ("bb", .uncached "Real-Debrid")])) events entries])) ∧
    ∃ closed events entries, (RegistrySession.perform
        ⟨.serving [(.realDebrid, .oneByOne)] fun _ => .secondWithdrawn, []⟩ .close).1 = closed ∧
      (closed.performAll [.sweep (.arr (["AA ", "bb"].map .str))]).2 = [⟨.ok (.swept
        [("realdebrid", [("aa", .uncached "Real-Debrid"), ("bb", .uncached "Real-Debrid")]),
          ("torbox", []), ("alldebrid", [])]), events, entries⟩] := by
  obtain ⟨accounts, registries, texts, -⟩ := closing_is_final
  constructor
  · have checks (hashes : Value) : ∀ o ∈ [Operation.check hashes], o.Keeps := by
      intro o member
      rw [List.mem_singleton.mp member]
      exact .check hashes
    have inside : ∀ o ∈ [Operation.act .userInfo], o.Keeps := by
      intro o member
      rw [List.mem_singleton.mp member]
      exact .act _
    obtain ⟨-, -, -, idle⟩ := accounts .oneByOne Account.oneByOne_opened .secondWithdrawn _ _
      (checks (.arr [.str "aa"])) (.leave inside (.error (.unreadable [])))
    obtain ⟨reports, performed, idles⟩ := idle _ (checks (.arr (["AA ", "bb"].map .str)))
    cases idles with
    | cons one none =>
        cases none
        cases one with
        | check _ silent =>
            rw [texts] at performed
            exact ⟨_, _, _, rfl, performed⟩
  · have opened : ∀ e ∈ [(Provider.realDebrid, Account.oneByOne)], e.2.Opened := by
      intro e member
      rw [List.mem_singleton.mp member]
      exact Account.oneByOne_opened
    obtain ⟨client', -, -, -, idle, -⟩ := registries _ opened (fun _ => .secondWithdrawn) [] [] _ .close
    have idles := (idle [.sweep (.arr (["AA ", "bb"].map .str))]).2
    rcases List.forall₂_cons_left_iff.mp idles with ⟨report, none, one, nothing, swept⟩
    cases nothing
    cases one with
    | sweep _ silent => exact ⟨_, _, _, rfl, swept⟩
    | other other _ => exact absurd rfl (other _)

end DebridCache
