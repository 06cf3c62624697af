import DebridCache.Availability.Check
import DebridCache.Proofs.Account
import DebridCache.Proofs.Run
import DebridCache.Proofs.Wire.Path

/-!
What work can send. A property that every request of some work has is kept by all ways to compose work,
and on whatever client the work is run, every request that is seen of it has the property.
-/

namespace DebridCache

open Wire (Sent Request)

namespace Exchange

variable {α β : Type} {P : Sent → Prop}

/-- All that the work can send has a property. -/
def Sends (P : Sent → Prop) : Exchange α → Prop
  | .done _ | .fail _ => True
  | .send r next => P r ∧ ∀ o, (next o).Sends P
  | .sleep _ next | .note _ next => next.Sends P

abbrev Silent (x : Exchange α) : Prop := x.Sends fun _ => False

namespace Sends

theorem lift (e : Except Fault α) : (Exchange.lift e).Sends P := by
  cases e <;> trivial

theorem submit {r : Request} (allowed : ∀ sent, r.prepare = .ok sent → P sent) :
    (Exchange.submit r).Sends P := by
  unfold Exchange.submit
  cases prepared : r.prepare with
  | error f => trivial
  | ok sent =>
      refine ⟨allowed sent prepared, ?_⟩
      intro o
      cases o <;> trivial

theorem bind {x : Exchange α} {k : α → Exchange β} (first : x.Sends P) (rest : ∀ a, (k a).Sends P) :
    (x >>= k).Sends P := by
  induction x with
  | done a => exact rest a
  | fail f => trivial
  | send r next ih => exact ⟨first.1, fun o => ih o (first.2 o)⟩
  | sleep d next ih => exact ih first
  | note e next ih => exact ih first

theorem attempt {x : Exchange α} (sends : x.Sends P) : x.attempt.Sends P := by
  induction x with
  | done a => trivial
  | fail f =>
      unfold Exchange.attempt
      split <;> trivial
  | send r next ih => exact ⟨sends.1, fun o => ih o (sends.2 o)⟩
  | sleep d next ih => exact ih sends
  | note e next ih => exact ih sends

theorem mono {Q : Sent → Prop} {x : Exchange α} (sends : x.Sends P) (more : ∀ sent, P sent → Q sent) :
    x.Sends Q := by
  induction x with
  | done a => trivial
  | fail f => trivial
  | send r next ih => exact ⟨more r sends.1, fun o => ih o (sends.2 o)⟩
  | sleep d next ih => exact ih sends
  | note e next ih => exact ih sends

theorem of_silent {x : Exchange α} (silent : x.Silent) : x.Sends P := silent.mono fun _ none => none.elim

theorem seen {x : Exchange α} (sends : x.Sends P) {c : Client} {sent : Sent}
    (member : .sent sent ∈ (x.run c).events) : P sent := by
  induction x generalizing c with
  | done a => cases member
  | fail f => cases member
  | send r next ih =>
      rw [Exchange.run] at member
      split at member
      · exact ih _ (sends.2 _) member
      · rcases List.mem_cons.mp member with same | later
        · cases same
          exact sends.1
        · exact ih _ (sends.2 _) later
  | sleep d next ih =>
      rcases List.mem_cons.mp member with same | later
      · cases same
      · exact ih sends later
  | note e next ih => exact ih sends member

end Sends
end Exchange

theorem Batch.consumeTicks_sends {α β : Type} {P : Sent → Prop} {f : β → List α → Exchange β}
    {ticks : List (Tick α)} (each : ∀ b items, .batch items ∈ ticks → (f b items).Sends P) (start : β) :
    (consumeTicks f start ticks).Sends P :=
  consumeTicks_all (fun _ => trivial) (fun _ _ first rest => first.bind rest) ticks
    (fun _ _ _ _ sends => sends) each start

namespace Account

def Asks (a : Account) (sent : Sent) : Prop := ∃ batch, (a.question batch).prepare = .ok sent

/-- A question goes to the server of the account's provider, under the account's credential. -/
theorem Asks.own {a : Account} {sent : Sent} (asks : a.Asks sent) :
    sent.authorization = a.authorization ∧ sent.timeout = a.timeout ∧
      Wire.AtServer a.provider.site.origin sent.url := by
  obtain ⟨batch, prepared⟩ := asks
  have parts := Wire.parts_of_prepare prepared
  have server := Wire.atServer_of_prepare prepared
  have named : (a.question batch).authorization = a.authorization ∧
      (a.question batch).timeout = a.timeout ∧ (a.question batch).site = a.provider.site := by
    unfold question
    split <;> exact ⟨rfl, rfl, rfl⟩
  rw [named.2.2] at server
  exact ⟨parts.authorization.trans named.1, parts.timeout.trans named.2.1, server⟩

theorem tryBatch_sends (a : Account) (results : ResultMap) {batch : List String} {P : Sent → Prop}
    (allowed : ∀ sent, (a.question batch).prepare = .ok sent → P sent) :
    (a.tryBatch results batch).Sends P := by
  have asked : (a.askBatch batch).Sends P := by
    refine (Exchange.Sends.submit allowed).bind fun r => (Exchange.Sends.lift _).bind fun v =>
      (Exchange.Sends.lift _).bind fun reading => ?_
    cases reading <;> trivial
  refine asked.attempt.bind fun found => ?_
  cases found <;> trivial

/-- Whatever is asked and answered, and whatever the limits are, a check sends no questions but about
hashes that its input asks for. -/
theorem check_sends_parts (a : Account) (input : Value) :
    (a.check input).Sends fun sent => ∃ hashes batch,
      Hash.unique input = .ok hashes ∧ batch ⊆ hashes ∧ (a.question batch).prepare = .ok sent := by
  unfold check
  cases asked : Hash.unique input with
  | error f => trivial
  | ok hashes =>
      cases hashes with
      | nil => trivial
      | cons h hs =>
          show (a.checkHashes (h :: hs)).Sends _
          refine Exchange.Sends.bind ?_ fun results => trivial
          refine (Batch.consumeTicks_sends (fun results batch member => ?_) _).bind fun results => ?_
          · exact a.tryBatch_sends results fun sent prepared =>
              ⟨h :: hs, batch, rfl, Batch.subset_of_mem_feed member, prepared⟩
          · split <;> trivial

/-- A check sends its own account's questions and nothing else. -/
theorem check_sends (a : Account) (input : Value) : (a.check input).Sends a.Asks :=
  (a.check_sends_parts input).mono fun _ ⟨_, batch, _, _, prepared⟩ => ⟨batch, prepared⟩

/-- A check sends no questions but those about the batches of the hashes that its input asks for. -/
theorem check_sends_batches {a : Account} (cuts : a.Cuts) (input : Value) :
    (a.check input).Sends fun sent => ∃ hashes batch,
      Hash.unique input = .ok hashes ∧ batch ∈ a.batches hashes ∧
        (a.question batch).prepare = .ok sent := by
  unfold check
  cases asked : Hash.unique input with
  | error f => trivial
  | ok hashes =>
      cases hashes with
      | nil => trivial
      | cons h hs =>
          show (a.checkHashes (h :: hs)).Sends _
          unfold checkHashes
          rw [feed_eq_spaced cuts (List.cons_ne_nil h hs)]
          refine Exchange.Sends.bind ?_ fun results => trivial
          refine (Batch.consumeTicks_sends (fun results batch member => ?_) _).bind fun results => ?_
          · refine a.tryBatch_sends results fun sent prepared => ⟨h :: hs, batch, rfl, ?_, prepared⟩
            rcases Batch.mem_ticks_spaced member with ⟨b, held, same⟩ | ⟨-, e, same⟩
            · cases same
              exact held
            · cases same
          · split <;> trivial

end Account
end DebridCache
