import DebridCache.Proofs.Batch
import DebridCache.Proofs.Composed

/-!
Withdrawn requests. Best-effort work catches faults of every other kind, but it lets a withdrawal through:
the work ends there, and the request is the last that is seen of it. That is a property of the work itself,
which every way to compose work keeps, so it is proved without running anything.
-/

namespace DebridCache

open Wire (Outcome Sent)

def Script.outcomeAt (s : Script) (index : Nat) : Outcome := (s.outcomes[index]?).getD s.afterwards

theorem Script.outcomeAt_zero (s : Script) : s.outcomeAt 0 = s.next.1 := by
  obtain ⟨outcomes, afterwards⟩ := s
  cases outcomes <;> rfl

theorem Script.outcomeAt_succ (s : Script) (index : Nat) :
    s.outcomeAt (index + 1) = s.next.2.outcomeAt index := by
  obtain ⟨outcomes, afterwards⟩ := s
  cases outcomes with
  | nil => simp [outcomeAt, next]
  | cons o os => simp [outcomeAt, next]

abbrev requestsOf (events : List Event) : List Sent := events.filterMap Event.request?

/-- The request at an index is the last that was seen. -/
def EndsAt (events : List Event) (index : Nat) : Prop :=
  ∃ before sent, events = before ++ [.sent sent] ∧ (requestsOf before).length = index

theorem EndsAt.sent {events : List Event} {index : Nat} (ends : EndsAt events index) (first : Sent) :
    EndsAt (.sent first :: events) (index + 1) := by
  obtain ⟨before, last, rfl, count⟩ := ends
  exact ⟨.sent first :: before, last, rfl, by simp [Event.request?, count]⟩

theorem EndsAt.slept {events : List Event} {index : Nat} (ends : EndsAt events index) (delay : Value) :
    EndsAt (.slept delay :: events) index := by
  obtain ⟨before, last, rfl, count⟩ := ends
  exact ⟨.slept delay :: before, last, rfl, count⟩

namespace Exchange

variable {α β : Type}

/-- Work that ends at once where a request of it is withdrawn. -/
def Yields : Exchange α → Prop
  | .done _ | .fail _ => True
  | .send _ next => next (.failed .cancelled) = .fail .cancelled ∧ ∀ o, (next o).Yields
  | .sleep _ next | .note _ next => next.Yields

/-- Where a request that the work sends is withdrawn, so is the work, and nothing more is seen of it. -/
def StopsWithdrawn (x : Exchange α) : Prop :=
  ∀ (c : Client) (index : Nat), c.script.outcomeAt index = .failed .cancelled →
    index < (requestsOf (x.run c).events).length →
    (x.run c).result = .error .cancelled ∧ EndsAt (x.run c).events index

namespace Yields

theorem lift (e : Except Fault α) : (Exchange.lift e).Yields := by
  cases e <;> trivial

theorem submit (r : Wire.Request) : (Exchange.submit r).Yields := by
  unfold Exchange.submit
  cases r.prepare with
  | error f => trivial
  | ok sent =>
      refine ⟨rfl, ?_⟩
      intro o
      cases o <;> trivial

theorem bind {x : Exchange α} {k : α → Exchange β} (first : x.Yields) (rest : ∀ a, (k a).Yields) :
    (x >>= k).Yields := by
  induction x with
  | done a => exact rest a
  | fail f => trivial
  | send r next ih =>
      exact ⟨congrArg (Exchange.bind · k) first.1, fun o => ih o (first.2 o)⟩
  | sleep d next ih => exact ih first
  | note e next ih => exact ih first

/-- Catching faults does not catch a withdrawal. -/
theorem attempt {x : Exchange α} (yields : x.Yields) : x.attempt.Yields := by
  induction x with
  | done a => trivial
  | fail f =>
      unfold Exchange.attempt
      split <;> trivial
  | send r next ih =>
      exact ⟨congrArg Exchange.attempt yields.1, fun o => ih o (yields.2 o)⟩
  | sleep d next ih => exact ih yields
  | note e next ih => exact ih yields

theorem stops {x : Exchange α} (yields : x.Yields) : x.StopsWithdrawn := by
  intro c index withdrawn sent
  induction x generalizing c index with
  | done a => cases sent
  | fail f => cases sent
  | send r next ih =>
      by_cases closed : c.isClosed = true
      · rw [Exchange.run, if_pos closed] at sent ⊢
        exact ih _ (yields.2 _) c index withdrawn sent
      · rw [Exchange.run, if_neg closed] at sent ⊢
        cases index with
        | zero =>
            rw [Script.outcomeAt_zero] at withdrawn
            simp only [withdrawn, yields.1, run_fail]
            exact ⟨rfl, [], r, rfl, rfl⟩
        | succ index =>
            rw [Script.outcomeAt_succ] at withdrawn
            obtain ⟨result, ends⟩ := ih c.script.next.1 (yields.2 _) { c with script := c.script.next.2 }
              index withdrawn (Nat.lt_of_succ_lt_succ sent)
            exact ⟨result, ends.sent r⟩
  | sleep d next ih =>
      obtain ⟨result, ends⟩ := ih yields c index withdrawn sent
      exact ⟨result, ends.slept d⟩
  | note e next ih => exact ih yields c index withdrawn sent

end Yields

theorem Composed.yields {x : Exchange α} (composed : x.Composed) : x.Yields := by
  induction composed with
  | done a => trivial
  | fail f => trivial
  | lift e => exact .lift e
  | submit r => exact .submit r
  | note rest ih => exact ih
  | bind first rest ihf ihr => exact ihf.bind ihr
  | attempt work ih => exact ih.attempt

end Exchange

theorem Batch.consumeTicks_yields {α β : Type} {f : β → List α → Exchange β}
    (each : ∀ b items, (f b items).Yields) (ticks : List (Tick α)) (start : β) :
    (consumeTicks f start ticks).Yields :=
  consumeTicks_all (fun _ => trivial) (fun _ _ first rest => first.bind rest) ticks
    (fun _ _ _ _ yields => yields) (fun b items _ => each b items) start

theorem Account.check_yields (a : Account) (input : Value) : (a.check input).Yields := by
  refine (Exchange.Yields.lift _).bind fun hashes => ?_
  cases hashes with
  | nil => trivial
  | cons h hs =>
      have batches := Batch.consumeTicks_yields fun results b => (a.tryBatch_composed results b).yields
      refine Exchange.Yields.bind ?_ fun results => trivial
      refine (batches _ _).bind fun results => ?_
      split <;> trivial

end DebridCache
