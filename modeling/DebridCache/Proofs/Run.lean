import DebridCache.Exchange
import DebridCache.Proofs.Wire.Request

/-!
Laws of running work on a client. A run of composed work is the run of its first part followed by the
run of the rest on the client left behind, and work whose fault is caught runs as the work itself. The
dialogue of a run lists each request with the outcome it met.
-/

namespace DebridCache

open Wire (Sent Outcome Request Response)

variable {α β : Type}

def Wire.Outcome.response : Outcome → Except Fault Response
  | .answered r => .ok r
  | .failed f => .error f

theorem Wire.Outcome.met_of_answered {o : Outcome} {r : Response} (answered : o = .answered r) :
    o ≠ .failed .cancelled := by
  rw [answered]
  intro withdrawn
  cases withdrawn

namespace Client

def reply (c : Client) : Outcome :=
  if c.isClosed then .failed .clientClosed else c.script.next.1

def next (c : Client) : Client :=
  if c.isClosed then c else { c with script := c.script.next.2 }

/-- A request with its outcome, if it goes out at all. -/
def exchanged (c : Client) (r : Sent) : List (Sent × Outcome) :=
  if c.isClosed then [] else [(r, c.script.next.1)]

def ask (c : Client) (r : Request) : Outcome :=
  match r.prepare with
  | .ok _ => c.reply
  | .error f => .failed f

def afterAsk (c : Client) (r : Request) : Client :=
  match r.prepare with
  | .ok _ => c.next
  | .error _ => c

def asking (c : Client) (r : Request) : List (Sent × Outcome) :=
  match r.prepare with
  | .ok sent => c.exchanged sent
  | .error _ => []

theorem ask_of_prepare {r : Request} {sent : Sent} (prepared : r.prepare = .ok sent) (c : Client) :
    c.ask r = c.reply := by
  rw [ask, prepared]

theorem asking_of_prepare {r : Request} {sent : Sent} (prepared : r.prepare = .ok sent) {c : Client}
    (isOpen : c.isClosed = false) : c.asking r = [(sent, c.reply)] := by
  simp [asking, prepared, exchanged, reply, isOpen]

@[simp] theorem isClosed_next (c : Client) : c.next.isClosed = c.isClosed := by
  unfold next
  split <;> rfl

@[simp] theorem isClosed_afterAsk (c : Client) (r : Request) :
    (c.afterAsk r).isClosed = c.isClosed := by
  unfold afterAsk
  split
  · exact isClosed_next c
  · rfl

end Client

/-- The requests that some work sends on a client, each with its outcome. -/
def Exchange.dialogue (c : Client) : Exchange α → List (Sent × Outcome)
  | .done _ | .fail _ => []
  | .send r k => c.exchanged r ++ (k c.reply).dialogue c.next
  | .sleep _ k | .note _ k => k.dialogue c

def Event.request? : Event → Option Sent
  | .sent r => some r
  | .slept _ => none

namespace Run

/-- A run that goes on, unless it failed, with what was found and the client left behind. -/
def andThen (r : Run α) (k : α → Client → Run β) : Run β :=
  match r.result with
  | .ok a => ⟨(k a r.client).result, r.events ++ (k a r.client).events,
      r.entries ++ (k a r.client).entries, (k a r.client).client⟩
  | .error f => ⟨.error f, r.events, r.entries, r.client⟩

def addEvents (events : List Event) (r : Run α) : Run α := { r with events := events ++ r.events }

theorem andThen_addEvent (e : Event) (r : Run α) (k : α → Client → Run β) :
    (r.addEvent e).andThen k = (r.andThen k).addEvent e := by
  unfold andThen addEvent
  cases r.result <;> rfl

theorem andThen_addEntry (e : Entry) (r : Run α) (k : α → Client → Run β) :
    (r.addEntry e).andThen k = (r.andThen k).addEntry e := by
  unfold andThen addEntry
  cases r.result <;> rfl

end Run

namespace Exchange

theorem run_send (c : Client) (r : Sent) (k : Outcome → Exchange α) :
    (send r k).run c =
      ((k c.reply).run c.next).addEvents ((c.exchanged r).map fun x => Event.sent x.1) := by
  simp only [run, Client.reply, Client.next, Client.exchanged]
  split <;> rfl

theorem run_bind (x : Exchange α) (k : α → Exchange β) (c : Client) :
    (x.bind k).run c = (x.run c).andThen fun a c => (k a).run c := by
  induction x generalizing c with
  | done a => rfl
  | fail f => rfl
  | send r next ih =>
      rw [bind, run_send, run_send, ih, Run.addEvents, Run.addEvents]
      unfold Run.andThen
      cases ((next c.reply).run c.next).result <;> simp
  | sleep d next ih => simp only [bind, run, ih, Run.andThen_addEvent]
  | note e next ih => simp only [bind, run, ih, Run.andThen_addEntry]

theorem bind_eq (x : Exchange α) (k : α → Exchange β) : (x >>= k) = x.bind k := rfl

@[simp] theorem run_done (a : α) (c : Client) : (done a).run c = ⟨.ok a, [], [], c⟩ := rfl

@[simp] theorem run_fail (f : Fault) (c : Client) :
    (fail f : Exchange α).run c = ⟨.error f, [], [], c⟩ := rfl

/-- What catching makes of a result: a withdrawn call alone is not caught. -/
def caught : Except Fault α → Except Fault (Except Fault α)
  | .ok a => .ok (.ok a)
  | .error f => if f.isRecoverable then .ok (.error f) else .error f

theorem caught_eq {e : Except Fault α} (h : e ≠ .error .cancelled) : caught e = .ok e := by
  cases e with
  | ok a => rfl
  | error f =>
      have recoverable : f.isRecoverable = true := by
        unfold Fault.isRecoverable
        exact decide_eq_true fun e => h (by rw [e])
      simp only [caught, recoverable, if_true]

theorem eq_of_caught {e e' : Except Fault α} (h : caught e = .ok e') : e' = e := by
  cases e with
  | ok a =>
      cases h
      rfl
  | error f =>
      rw [caught] at h
      split at h
      · cases h
        rfl
      · cases h

theorem caught_failsOnly (e : Except Fault α) : FailsOnly (· = .cancelled) (caught e) := by
  cases e with
  | ok a => exact .ok _
  | error f =>
      rw [caught]
      split
      · exact .ok _
      · rename_i kept
        exact .error (Decidable.not_not.mp fun other => kept (decide_eq_true other))

/-- Of two works that are attempted together, each can be attempted by itself. -/
theorem attempt_bind_bind {γ : Type} (x : Exchange α) (k : α → Exchange β)
    (g : Except Fault β → Exchange γ) :
    ((x >>= k).attempt >>= g) = x.attempt >>= fun
      | .ok a => (k a).attempt >>= g
      | .error f => g (.error f) := by
  induction x with
  | done a => rfl
  | fail f => cases f <;> rfl
  | send r next ih => exact congrArg (Exchange.send r) (funext ih)
  | sleep d next ih => exact congrArg (Exchange.sleep d) ih
  | note e next ih => exact congrArg (Exchange.note e) ih

/-- Catching a fault changes what comes out and nothing of how it comes about. -/
theorem run_attempt (x : Exchange α) (c : Client) :
    x.attempt.run c = { x.run c with result := caught (x.run c).result } := by
  induction x generalizing c with
  | done a => rfl
  | fail f =>
      simp only [attempt, run_fail, caught]
      split <;> rfl
  | send r next ih => rw [attempt, run_send, run_send, ih]; rfl
  | sleep d next ih => rw [attempt, run, ih]; rfl
  | note e next ih => rw [attempt, run, ih]; rfl

theorem run_submit (r : Request) (c : Client) :
    (submit r).run c = ⟨(c.ask r).response,
      (c.asking r).map fun x => Event.sent x.1, [], c.afterAsk r⟩ := by
  unfold submit Client.ask Client.asking Client.afterAsk
  cases r.prepare with
  | error f => rfl
  | ok sent =>
      simp only [run_send]
      cases c.reply <;> simp [Run.addEvents, Outcome.response]

/-- The dialogue of composed work goes on where its first part ends. -/
theorem dialogue_bind (x : Exchange α) (k : α → Exchange β) (c : Client) :
    (x.bind k).dialogue c = x.dialogue c ++ match (x.run c).result with
      | .ok a => (k a).dialogue (x.run c).client
      | .error _ => [] := by
  induction x generalizing c with
  | done a => rfl
  | fail f => rfl
  | send r next ih =>
      simp only [bind, dialogue, run_send, Run.addEvents, ih, List.append_assoc]
  | sleep d next ih => exact ih c
  | note e next ih => exact ih c

theorem prefix_dialogue_bind (x : Exchange α) (k : α → Exchange β) (c : Client) :
    x.dialogue c <+: (x.bind k).dialogue c := by
  rw [dialogue_bind]
  exact List.prefix_append _ _

/-- On an open client whose transport always does the same, every exchange ends so. -/
theorem dialogue_always (x : Exchange α) {o : Outcome} :
    ∀ e ∈ x.dialogue ⟨false, [], o⟩, e.2 = o := by
  induction x with
  | done a =>
      intro e member
      cases member
  | fail f =>
      intro e member
      cases member
  | send r next ih =>
      intro e member
      change e ∈ (r, o) :: (next o).dialogue ⟨false, [], o⟩ at member
      rcases List.mem_cons.mp member with rfl | later
      · rfl
      · exact ih o e later
  | sleep d next ih => exact ih
  | note e next ih => exact ih

theorem dialogue_attempt (x : Exchange α) (c : Client) : x.attempt.dialogue c = x.dialogue c := by
  induction x generalizing c with
  | done a => rfl
  | fail f => cases f <;> rfl
  | send r next ih => simp only [attempt, dialogue, ih]
  | sleep d next ih => exact ih c
  | note e next ih => exact ih c

theorem dialogue_submit (r : Request) (c : Client) : (submit r).dialogue c = c.asking r := by
  unfold submit Client.asking
  cases r.prepare with
  | error f => rfl
  | ok sent =>
      simp only [dialogue]
      cases c.reply <;> simp [dialogue]

/-- The requests of a dialogue are those among the events of the run, in the same order. -/
theorem requests_events (x : Exchange α) (c : Client) :
    (x.run c).events.filterMap Event.request? = (x.dialogue c).map (·.1) := by
  induction x generalizing c with
  | done a => rfl
  | fail f => rfl
  | send r next ih =>
      rw [run_send]
      simp only [Run.addEvents, dialogue, List.filterMap_append, ih, List.map_append,
        Client.exchanged]
      split <;> rfl
  | sleep d next ih => exact ih c
  | note e next ih => exact ih c

theorem events_bind (x : Exchange α) (k : α → Exchange β) (c : Client) :
    ((x.bind k).run c).events = (x.run c).events ++ match (x.run c).result with
      | .ok a => ((k a).run (x.run c).client).events
      | .error _ => [] := by
  rw [run_bind, Run.andThen]
  cases (x.run c).result <;> simp

theorem events_bind_quiet {x : Exchange α} {k : α → Exchange β} {c : Client}
    (quiet : ∀ a d, ((k a).run d).events = []) : ((x >>= k).run c).events = (x.run c).events := by
  rw [bind_eq, events_bind]
  cases (x.run c).result with
  | ok a => simp [quiet]
  | error f => simp

/-- Work that, as long as its outcomes are of a kind, fails only with faults of a kind, and that pauses
only if it may. -/
def Keeps (faults : Fault → Prop) (outcomes : Outcome → Prop) (pauses : Prop) : Exchange α → Prop
  | .done _ => True
  | .fail f => faults f
  | .send _ next => ∀ o, outcomes o → (next o).Keeps faults outcomes pauses
  | .sleep _ next => pauses ∧ next.Keeps faults outcomes pauses
  | .note _ next => next.Keeps faults outcomes pauses

namespace Keeps

variable {faults : Fault → Prop} {outcomes : Outcome → Prop} {pauses : Prop}

theorem lift {e : Except Fault α} (fails : FailsOnly faults e) :
    (Exchange.lift e).Keeps faults outcomes pauses := by
  cases e with
  | ok a => trivial
  | error f => exact fails f rfl

theorem submit (r : Request) (address : ∀ reason, faults (.badAddress reason))
    (header : ∀ value, faults (.badHeader value))
    (met : ∀ f, outcomes (.failed f) → faults f) :
    (Exchange.submit r).Keeps faults outcomes pauses := by
  unfold Exchange.submit
  cases prepared : r.prepare with
  | error f =>
      exact Wire.Request.prepare_failsOnly address (Wire.checkHeader_failsOnly header _) f prepared
  | ok sent =>
      intro o kind
      cases o with
      | answered r => trivial
      | failed f => exact met f kind

theorem bind {x : Exchange α} {k : α → Exchange β} (first : x.Keeps faults outcomes pauses)
    (rest : ∀ a, (k a).Keeps faults outcomes pauses) : (x >>= k).Keeps faults outcomes pauses := by
  induction x with
  | done a => exact rest a
  | fail f => exact first
  | send r next ih => exact fun o kind => ih o (first o kind)
  | sleep d next ih => exact ⟨first.1, ih first.2⟩
  | note e next ih => exact ih first

theorem attempt {x : Exchange α} (keeps : x.Keeps faults outcomes pauses) :
    x.attempt.Keeps faults outcomes pauses := by
  induction x with
  | done a => trivial
  | fail f =>
      unfold Exchange.attempt
      split
      · trivial
      · exact keeps
  | send r next ih => exact fun o kind => ih o (keeps o kind)
  | sleep d next ih => exact ⟨keeps.1, ih keeps.2⟩
  | note e next ih => exact ih keeps

end Keeps

/-- Work that waits for nothing but its requests. -/
abbrev Wakeful (x : Exchange α) : Prop := x.Keeps (fun _ => True) (fun _ => True) False

/-- All that wakeful work shows are its requests. -/
theorem Wakeful.events {x : Exchange α} (wakeful : x.Wakeful) (c : Client) :
    (x.run c).events = (x.dialogue c).map fun e => .sent e.1 := by
  induction x generalizing c with
  | done a => rfl
  | fail f => rfl
  | send r next ih =>
      simp only [run_send, Run.addEvents, dialogue, ih c.reply (wakeful c.reply trivial),
        List.map_append]
  | sleep d next ih => exact wakeful.1.elim
  | note e next ih => exact ih wakeful c

/-- Work that is withdrawn only where an outcome withdraws it. -/
abbrev Steadfast (x : Exchange α) : Prop := x.Keeps (· ≠ .cancelled) (· ≠ .failed .cancelled) True

/-- Work on a client ends with a result and leaves a client behind, after some dialogue. Pauses and log
entries are not part of it. -/
structure Ends (x : Exchange α) (c : Client) (result : Except Fault α) (after : Client)
    (said : List (Sent × Outcome)) : Prop where
  result : (x.run c).result = result
  client : (x.run c).client = after
  dialogue : x.dialogue c = said

namespace Ends

variable {x : Exchange α} {k : α → Exchange β} {c after : Client} {said : List (Sent × Outcome)}

theorem done (a : α) (c : Client) : (Exchange.done a).Ends c (.ok a) c [] := ⟨rfl, rfl, rfl⟩

theorem fail (f : Fault) (c : Client) : (Exchange.fail f : Exchange α).Ends c (.error f) c [] :=
  ⟨rfl, rfl, rfl⟩

theorem lift (e : Except Fault α) (c : Client) : (Exchange.lift e).Ends c e c [] := by
  cases e with
  | ok a => exact done a c
  | error f => exact fail f c

theorem note {e : Entry} {r : Except Fault α} (h : x.Ends c r after said) :
    (Exchange.note e x).Ends c r after said := ⟨h.result, h.client, h.dialogue⟩

theorem sleep {d : Value} {r : Except Fault α} (h : x.Ends c r after said) :
    (Exchange.sleep d x).Ends c r after said := ⟨h.result, h.client, h.dialogue⟩

theorem bind {a : α} {r : Except Fault β} {last : Client} {more : List (Sent × Outcome)}
    (first : x.Ends c (.ok a) after said) (second : (k a).Ends after r last more) :
    (x >>= k).Ends c r last (said ++ more) := by
  have run : (x.bind k).run c = (x.run c).andThen fun a c => (k a).run c := run_bind x k c
  rw [Run.andThen, first.result, first.client] at run
  refine ⟨?_, ?_, ?_⟩
  · rw [bind_eq, run]
    exact second.result
  · rw [bind_eq, run]
    exact second.client
  · rw [bind_eq, dialogue_bind, first.result, first.client, first.dialogue]
    exact congrArg (said ++ ·) second.dialogue

theorem bind_error {f : Fault} (first : x.Ends c (.error f) after said) :
    (x >>= k).Ends c (.error f) after said := by
  have run : (x.bind k).run c = (x.run c).andThen fun a c => (k a).run c := run_bind x k c
  rw [Run.andThen, first.result] at run
  refine ⟨?_, ?_, ?_⟩
  · rw [bind_eq, run]
  · rw [bind_eq, run]
    exact first.client
  · rw [bind_eq, dialogue_bind, first.result, first.dialogue]
    exact List.append_nil said

/-- The rest of some work asks nothing and leaves the client alone. -/
theorem bind_quiet {r : Except Fault α} {g : α → Except Fault β} (first : x.Ends c r after said)
    (rest : ∀ a, (k a).Ends after (g a) after []) : (x >>= k).Ends c (r >>= g) after said := by
  cases r with
  | error f => exact first.bind_error
  | ok a =>
      rw [← List.append_nil said]
      exact first.bind (rest a)

theorem map {r : Except Fault α} (h : x.Ends c r after said) (g : α → β) :
    (x >>= fun a => pure (g a)).Ends c (r.map g) after said := by
  have made := h.bind_quiet fun a => .done (g a) after
  cases r <;> exact made

theorem lift_bind {e : Except Fault α} {g : α → Except Fault β}
    (rest : ∀ a, (k a).Ends c (g a) c []) : (Exchange.lift e >>= k).Ends c (e >>= g) c [] :=
  (lift e c).bind_quiet rest

theorem catching {r : Except Fault α} (h : x.Ends c r after said) :
    x.attempt.Ends c (caught r) after said := by
  refine ⟨?_, ?_, ?_⟩
  · rw [run_attempt, h.result]
  · rw [run_attempt]
    exact h.client
  · rw [dialogue_attempt]
    exact h.dialogue

theorem attempt {r : Except Fault α} (h : x.Ends c r after said) (kept : r ≠ .error .cancelled) :
    x.attempt.Ends c (.ok r) after said := by
  rw [← caught_eq kept]
  exact h.catching

theorem submit (r : Request) (c : Client) :
    (Exchange.submit r).Ends c (c.ask r).response (c.afterAsk r) (c.asking r) := by
  refine ⟨?_, ?_, dialogue_submit r c⟩
  · rw [run_submit]
  · rw [run_submit]

end Ends
end Exchange

def Script.Steady (s : Script) : Prop :=
  (∀ o ∈ s.outcomes, o ≠ .failed .cancelled) ∧ s.afterwards ≠ .failed .cancelled

theorem Script.Steady.next {s : Script} (h : s.Steady) :
    s.next.1 ≠ .failed .cancelled ∧ s.next.2.Steady := by
  obtain ⟨outcomes, afterwards⟩ := s
  cases outcomes with
  | nil => exact ⟨h.2, h⟩
  | cons o os =>
      have first := h.1 o List.mem_cons_self
      have rest : ∀ p ∈ os, p ≠ .failed .cancelled := fun p hp => h.1 p (List.mem_cons_of_mem o hp)
      exact ⟨first, rest, h.2⟩

namespace Client

def Steady (c : Client) : Prop := c.script.Steady

/-- A transport that always does the same is steady unless it withdraws the call. -/
theorem steady_always {isClosed : Bool} {o : Outcome} (h : o ≠ .failed .cancelled) :
    Steady ⟨isClosed, [], o⟩ := by
  constructor
  · intro p member
    cases member
  · exact h

theorem Steady.reply {c : Client} (h : c.Steady) : c.reply ≠ .failed .cancelled := by
  unfold Client.reply
  split
  · intro e; cases e
  · exact (Script.Steady.next h).1

theorem Steady.next {c : Client} (h : c.Steady) : c.next.Steady := by
  unfold Client.next
  split
  · exact h
  · exact (Script.Steady.next h).2

theorem Steady.run {x : Exchange α} (steadfast : x.Steadfast) {c : Client} (h : c.Steady) :
    (x.run c).result ≠ .error .cancelled := by
  induction x generalizing c with
  | done a =>
      intro same
      cases same
  | fail f =>
      intro same
      cases same
      exact steadfast rfl
  | send r next ih =>
      rw [Exchange.run_send]
      exact ih c.reply (steadfast c.reply h.reply) h.next
  | sleep d next ih => exact ih steadfast.2 h
  | note e next ih => exact ih steadfast h

/-- Only the transport withdraws a call, and only after the request went out. -/
theorem asking_of_cancelled {c : Client} {r : Request} (withdrawn : c.ask r = .failed .cancelled) :
    c.reply = .failed .cancelled ∧ ∃ sent, (sent, .failed .cancelled) ∈ c.asking r := by
  rw [ask] at withdrawn
  rw [asking]
  cases prepared : r.prepare with
  | ok sent =>
      rw [prepared] at withdrawn
      change c.reply = _ at withdrawn
      refine ⟨withdrawn, sent, ?_⟩
      show _ ∈ c.exchanged sent
      rw [reply] at withdrawn
      rw [exchanged]
      by_cases closed : c.isClosed = true
      · rw [if_pos closed] at withdrawn
        cases withdrawn
      · rw [if_neg closed] at withdrawn
        rw [if_neg closed, withdrawn]
        exact List.mem_singleton_self _
  | error f =>
      have header := Wire.checkHeader_failsOnly (P := (· ≠ .cancelled)) nofun r.authorization
      rw [prepared] at withdrawn
      cases withdrawn
      exact absurd rfl (Wire.Request.prepare_failsOnly (fun _ => nofun) header _ prepared)

/-- A request goes out if its header and its address can. -/
theorem ask_eq_reply (c : Client) {r : Request} (header : Wire.checkHeader r.authorization = .ok ())
    (sendable : ∀ reason, r.prepare ≠ .error (.badAddress reason)) : c.ask r = c.reply := by
  cases prepared : r.prepare with
  | ok sent => rw [ask, prepared]
  | error f =>
      have fits : FailsOnly (fun f => ∃ reason, f = .badAddress reason)
          (Wire.checkHeader r.authorization) := by
        rw [header]
        exact .ok ()
      obtain ⟨reason, bad⟩ :=
        Wire.Request.prepare_failsOnly (fun reason => ⟨reason, rfl⟩) fits f prepared
      rw [bad] at prepared
      exact absurd prepared (sendable reason)

theorem Steady.ask {c : Client} (h : c.Steady) (r : Request) : c.ask r ≠ .failed .cancelled :=
  fun withdrawn => h.reply (asking_of_cancelled withdrawn).1

theorem Steady.afterAsk {c : Client} (h : c.Steady) (r : Request) : (c.afterAsk r).Steady := by
  unfold Client.afterAsk
  split
  · exact h.next
  · exact h

end Client
end DebridCache
