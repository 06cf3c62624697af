import DebridCache.Proofs.Availability.Schedule
import DebridCache.Proofs.Sending
import DebridCache.Proofs.Settings

/-!
Real-Debrid's limits. However an account is opened there, it asks about one to forty hashes at a time, and
with a number for its delay it pauses for half a second or more between every two requests. That is a
property of the work, so neither outcomes nor input can change it. Not-a-number is no delay at all, and
opening an account does not refuse it.
-/

namespace DebridCache

open Wire (Sent)

variable {α β : Type}

def Value.AtMost (v w : Value) : Prop :=
  ∃ p q, v.place? = some p ∧ w.place? = some q ∧ (p.lt q || p.eq q) = true

/-- Between every two requests there is a pause of a kind. -/
def SpacedBy (long : Value → Prop) (events : List Event) : Prop :=
  ∀ before first between second after,
    events = before ++ .sent first :: (between ++ .sent second :: after) →
    ∃ d, long d ∧ .slept d ∈ between

namespace Exchange

variable {long : Value → Prop} {rested : Prop}

/-- Work with a pause of a kind before every request. The first needs none where the work is `rested`. -/
def Paced (long : Value → Prop) : Exchange α → Prop → Prop
  | .done _, _ | .fail _, _ => True
  | .send _ next, rested => rested ∧ ∀ o, (next o).Paced long False
  | .sleep d next, rested => next.Paced long (rested ∨ long d)
  | .note _ next, rested => next.Paced long rested

namespace Paced

theorem mono {x : Exchange α} {rested' : Prop} (paced : x.Paced long rested)
    (more : rested → rested') : x.Paced long rested' := by
  induction x generalizing rested rested' with
  | done a => trivial
  | fail f => trivial
  | send r next ih => exact ⟨more paced.1, paced.2⟩
  | sleep d next ih => exact ih paced (Or.imp_left more)
  | note e next ih => exact ih paced more

theorem lift (e : Except Fault α) : (Exchange.lift e).Paced long rested := by
  cases e <;> trivial

theorem lift_bind {e : Except Fault α} {k : α → Exchange β} (rest : ∀ a, (k a).Paced long rested) :
    (Exchange.lift e >>= k).Paced long rested := by
  cases e with
  | ok a => exact rest a
  | error f => trivial

theorem submit (r : Wire.Request) : (Exchange.submit r).Paced long True := by
  unfold Exchange.submit
  cases r.prepare with
  | error f => trivial
  | ok sent =>
      refine ⟨trivial, ?_⟩
      intro o
      cases o <;> trivial

theorem bind {x : Exchange α} {k : α → Exchange β} (first : x.Paced long rested)
    (rest : ∀ a, (k a).Paced long False) : (x >>= k).Paced long rested := by
  induction x generalizing rested with
  | done a => exact (rest a).mono False.elim
  | fail f => trivial
  | send r next ih => exact ⟨first.1, fun o => ih o (first.2 o)⟩
  | sleep d next ih => exact ih first
  | note e next ih => exact ih first

theorem attempt {x : Exchange α} (paced : x.Paced long rested) : x.attempt.Paced long rested := by
  induction x generalizing rested with
  | done a => trivial
  | fail f =>
      unfold Exchange.attempt
      split <;> trivial
  | send r next ih => exact ⟨paced.1, fun o => ih o (paced.2 o)⟩
  | sleep d next ih => exact ih paced
  | note e next ih => exact ih paced

/-- On any client a pause stands before the first request, unless the work is rested, and between every
two. -/
theorem events {x : Exchange α} (paced : x.Paced long rested) (c : Client) :
    (∀ before sent after, (x.run c).events = before ++ .sent sent :: after →
      rested ∨ ∃ d, long d ∧ .slept d ∈ before) ∧ SpacedBy long (x.run c).events := by
  induction x generalizing rested c with
  | done a => exact ⟨fun before sent after shown => by simp at shown,
      fun before first between second after shown => by simp at shown⟩
  | fail f => exact ⟨fun before sent after shown => by simp at shown,
      fun before first between second after shown => by simp at shown⟩
  | send r next ih =>
      by_cases closed : c.isClosed = true
      · rw [run, if_pos closed]
        obtain ⟨early, spaced⟩ := ih _ (paced.2 _) c
        exact ⟨fun _ _ _ _ => .inl paced.1, spaced⟩
      · rw [run, if_neg closed]
        obtain ⟨early, spaced⟩ := ih c.script.next.1 (paced.2 _) { c with script := c.script.next.2 }
        refine ⟨fun _ _ _ _ => .inl paced.1, ?_⟩
        intro before first between second after shown
        rcases List.cons_eq_append_iff.mp shown with ⟨rfl, same⟩ | ⟨later, rfl, same⟩
        · exact (early between second after (List.cons.inj same).2.symm).resolve_left id
        · exact spaced later first between second after same
  | sleep d next ih =>
      rw [run]
      obtain ⟨early, spaced⟩ := ih paced c
      constructor
      · intro before sent after shown
        rcases List.cons_eq_append_iff.mp shown with ⟨rfl, same⟩ | ⟨later, rfl, same⟩
        · cases same
        · rcases early later sent after same with (already | slow) | ⟨e, slow, member⟩
          · exact .inl already
          · exact .inr ⟨d, slow, List.mem_cons_self⟩
          · exact .inr ⟨e, slow, List.mem_cons_of_mem _ member⟩
      · intro before first between second after shown
        rcases List.cons_eq_append_iff.mp shown with ⟨rfl, same⟩ | ⟨later, rfl, same⟩
        · cases same
        · exact spaced later first between second after same
  | note e next ih => exact ih paced c

end Paced
end Exchange

theorem Batch.consumeTicks_paced {long : Value → Prop} {f : β → List α → Exchange β}
    (each : ∀ b items, (f b items).Paced long True) {delay : Value} (waiting : waits delay = true)
    (slow : long delay) (total index : Nat) (bs : List (List α)) (start : β) :
    (consumeTicks f start (spaced delay total index bs).ticks).Paced long (index = 0) := by
  induction bs generalizing index start with
  | nil => trivial
  | cons b bs ih =>
      -- once one batch is done the work is not rested, and the pause before the next is slow
      have rest (next : β) :
          (consumeTicks f next (spaced delay total (index + 1) bs).ticks).Paced long False :=
        (ih (index + 1) next).mono (Nat.succ_ne_zero index)
      have asked := (each start b).bind rest
      unfold spaced
      split
      · trivial
      · rename_i before made
        rcases gap_eq_ok made with ⟨rfl, first | still⟩ | ⟨-, e, rfl⟩
        · exact asked.mono fun _ => first
        · rw [waiting] at still
          cases still
        · exact asked.mono fun _ => .inr slow

namespace Account

theorem tryBatch_paced {long : Value → Prop} (a : Account) (results : ResultMap)
    (batch : List String) : (a.tryBatch results batch).Paced long True := by
  have asked : (a.askBatch batch).Paced long True := by
    refine (Exchange.Paced.submit _).bind fun r => (Exchange.Paced.lift _).bind fun v =>
      (Exchange.Paced.lift _).bind fun reading => ?_
    cases reading <;> trivial
  refine asked.attempt.bind fun found => ?_
  cases found <;> trivial

theorem feed_paced {long : Value → Prop} {a : Account} (waiting : Batch.waits a.batchDelay = true)
    (slow : long a.batchDelay) (batches : Except Fault (List (List String))) (start : ResultMap) :
    ((Batch.feed batches a.batchDelay).consume a.tryBatch start).Paced long True := by
  refine Exchange.Paced.bind (k := fun results => _) ?_ fun results => ?_
  · cases batches with
    | error f => trivial
    | ok bs =>
        have paced := Batch.consumeTicks_paced a.tryBatch_paced waiting slow bs.length 0 bs start
        exact paced.mono fun _ => trivial
  · split <;> trivial

/-- A check with a delay that is waited for waits before each request but the first. -/
theorem check_paced {long : Value → Prop} {a : Account} (waiting : Batch.waits a.batchDelay = true)
    (slow : long a.batchDelay) (input : Value) : (a.check input).Paced long True := by
  refine .lift_bind fun hashes => ?_
  cases hashes with
  | nil => trivial
  | cons h hs => exact (feed_paced waiting slow _ _).bind fun results => trivial

theorem feed_wakeful {a : Account} (still : Batch.waits a.batchDelay = false)
    (batches : Except Fault (List (List String))) (start : ResultMap) :
    ((Batch.feed batches a.batchDelay).consume a.tryBatch start).Wakeful := by
  refine Exchange.Keeps.bind (k := fun results => _) ?_ fun results => ?_
  · cases batches with
    | error f => trivial
    | ok bs =>
        refine Batch.consumeTicks_all (fun _ => trivial) (fun _ _ first rest => first.bind rest) _
          (fun x d e paused _ => ?_) (fun held batch _ => (a.tryBatch_composed held batch).wakeful) _
        rcases Batch.mem_ticks_spaced paused with ⟨b, -, same⟩ | ⟨waiting, -⟩
        · cases same
        · rw [still] at waiting
          cases waiting
  · split <;> trivial

/-- A check with a delay that is not waited for pauses nowhere. -/
theorem check_wakeful {a : Account} (still : Batch.waits a.batchDelay = false) (input : Value) :
    (a.check input).Wakeful := by
  refine .bind (.lift fun f failed => trivial) fun hashes => ?_
  cases hashes with
  | nil => trivial
  | cons h hs => exact (feed_wakeful still _ _).bind fun results => trivial

theorem unpaused {a : Account} (still : Batch.waits a.batchDelay = false) (input : Value) (c : Client)
    (d : Value) : .slept d ∉ ((a.check input).run c).events := by
  rw [(check_wakeful still input).events]
  intro member
  obtain ⟨e, -, same⟩ := List.mem_map.mp member
  cases same

end Account

theorem Batch.waits_of_half {delay : Value} (enough : Value.AtMost (.float .half) delay) :
    waits delay = true := by
  obtain ⟨p, q, half, place, least⟩ := enough
  cases half
  have positive : (Binary64.placeOfInt 0).lt Binary64.half.place = true := by decide +kernel
  rw [waits, Value.greater, place]
  exact Place.lt_of_lt_of_le positive least

/-- Nothing is below not-a-number, so it is not waited for. -/
theorem Batch.waits_of_nowhere {delay : Value} (number : delay.place? = some .nowhere) :
    waits delay = false := by
  rw [waits, Value.greater, number]
  rfl

/-- A number that is kept, or else gives way to half a second, is no less than that. -/
theorem Value.half_atMost_kept {delay : Value} {place : Place} (number : delay.place? = some place)
    (somewhere : place ≠ .nowhere) :
    AtMost (.float .half) (if place.lt Account.minBatchDelay.place then .float .half else delay) := by
  cases below : place.lt Account.minBatchDelay.place with
  | true => exact ⟨_, _, rfl, rfl, by decide +kernel⟩
  | false =>
      refine ⟨_, place, rfl, number, Place.le_of_not_lt somewhere ?_ below⟩
      intro same
      cases same

namespace Account

theorem asks_within {a : Account} {n : Int} (size : a.batchSize = .int n) (least : 1 ≤ n)
    (most : n ≤ maxBatchSize) {input : Value} {c : Client} {sent : Sent}
    (seen : .sent sent ∈ ((a.check input).run c).events) :
    ∃ hashes batch, Hash.unique input = .ok hashes ∧ batch ∈ a.batches hashes ∧
      1 ≤ batch.length ∧ batch.length ≤ 40 ∧ (a.question batch).prepare = .ok sent := by
  have cuts : a.Cuts := .inr ⟨n, least, size⟩
  obtain ⟨hashes, batch, unique, member, prepared⟩ := (check_sends_batches cuts input).seen seen
  have some : 1 ≤ batch.length := List.length_pos_iff.mpr (ne_nil_of_mem_batches cuts member)
  have few : batch.length ≤ 40 := length_le_of_mem_batches cuts ⟨n, most, size⟩ member
  exact ⟨hashes, batch, unique, member, some, few, prepared⟩

/-- Whatever whole number and whatever number are given for Real-Debrid's limits, an account is opened with
a size from one to forty, and each request of a check is about so many hashes. The delay is half a second
or more, and such a pause stands between every two requests, if the number given for it stands somewhere.
Not-a-number is kept as it is, and then no check pauses at all. -/
theorem limits_kept (credential timeout agent : Value) (size : Int) {delay : Value} {place : Place}
    (number : delay.place? = some place) :
    ∃ a, create .realDebrid ⟨credential, timeout, .int size, delay, agent⟩ = .ok a ∧
      (∃ n : Int, a.batchSize = .int n ∧ 1 ≤ n ∧ n ≤ 40) ∧
      (∀ input c sent, .sent sent ∈ ((a.check input).run c).events →
        ∃ hashes batch, Hash.unique input = .ok hashes ∧ batch ∈ a.batches hashes ∧
          1 ≤ batch.length ∧ batch.length ≤ 40 ∧ (a.question batch).prepare = .ok sent) ∧
      (place ≠ .nowhere → Value.AtMost (.float .half) a.batchDelay ∧
        ∀ input c, SpacedBy (Value.AtMost (.float .half)) ((a.check input).run c).events) ∧
      (place = .nowhere → a.batchDelay = delay ∧
        ∀ input c d, .slept d ∉ ((a.check input).run c).events) := by
  have least : (1 : Int) ≤ max 1 (min size maxBatchSize) := Int.le_max_left 1 _
  have most : max 1 (min size maxBatchSize) ≤ maxBatchSize :=
    Int.max_le.mpr ⟨by decide, Int.min_le_right size maxBatchSize⟩
  refine ⟨_, create_numbered credential timeout agent size number, ⟨_, rfl, least, most⟩, ?_, ?_, ?_⟩
  · intro input c sent seen
    exact asks_within rfl least most seen
  · intro somewhere
    have enough := Value.half_atMost_kept number somewhere
    refine ⟨enough, fun input c => ?_⟩
    exact ((check_paced (Batch.waits_of_half enough) enough input).events c).2
  · rintro rfl
    exact ⟨rfl, unpaused (Batch.waits_of_nowhere number)⟩

theorem limits_kept_of_bottom :
    ∃ a, create .realDebrid ⟨.str "key", .null, .int 1000, .float (.infinite true), .null⟩ = .ok a ∧
      (∃ n : Int, a.batchSize = .int n ∧ 1 ≤ n ∧ n ≤ 40) ∧
      Value.AtMost (.float .half) a.batchDelay ∧
      ∀ input c, SpacedBy (Value.AtMost (.float .half)) ((a.check input).run c).events := by
  have number : (Value.float (.infinite true)).place? = some .bottom := rfl
  obtain ⟨a, made, size, -, ordered, -⟩ := limits_kept (.str "key") .null .null 1000 number
  exact ⟨a, made, size, ordered (by decide)⟩

/-- With not-a-number for a delay the second request follows at once upon the first. -/
theorem limits_loosened_nowhere :
    ∃ a, create .realDebrid ⟨.str "key", .null, .int 1, .float .nan, .null⟩ = .ok a ∧
      ¬ Value.AtMost (.float .half) a.batchDelay ∧
      ∃ c : Client, c.isClosed = false ∧ c.Steady ∧ ∃ first second : Sent, first ≠ second ∧
        ((a.check (.arr [.str "aa", .str "bb"])).run c).events = [.sent first, .sent second] := by
  have limited : (⟨.realDebrid, .str "key", .null, .int 1, .float .nan, .null⟩ : Account).Limited 1
      .nan := ⟨by decide, by decide, fun _ => ⟨rfl, rfl⟩, fun other => absurd rfl other⟩
  have steady : Client.Steady ⟨false, [], .answered ⟨200, [123, 125], 1000⟩⟩ :=
    Client.steady_always (Wire.Outcome.met_of_answered rfl)
  have number : (Value.float .nan).place? = some .nowhere := rfl
  have still := Batch.waits_of_nowhere number
  refine ⟨_, create_numbered _ _ _ 1 number, ?_, _, rfl, steady, ?_⟩
  · rintro ⟨p, q, -, place, least⟩
    cases place
    revert least
    cases p <;> simp [Place.lt, Place.eq, Binary64.place]
  · have plain : ∀ h ∈ Hash.asked ["aa", "bb"], Hash.Plain h := by decide
    obtain ⟨requests, events, read⟩ :=
      limited.requests rfl (Wire.forall_of_all (by decide)) plain rfl steady
    have asked : Batch.chunks 1 ["aa", "bb"] = [["aa"], ["bb"]] := by
      rw [Batch.chunks_cons (by decide) (by decide), Batch.chunks_cons (by decide) (by decide)]
      exact congrArg (["aa"] :: ["bb"] :: ·) (Batch.chunks_nil 1)
    change requests.map _ = Batch.chunks 1 ["aa", "bb"] at read
    rw [asked] at read
    rw [pause, if_neg (by simp [still])] at events
    obtain ⟨first, later, rfl, one, read⟩ := List.map_eq_cons_iff.mp read
    obtain ⟨second, none, rfl, two, read⟩ := List.map_eq_cons_iff.mp read
    cases List.map_eq_nil_iff.mp read
    refine ⟨first, second, ?_, events⟩
    rintro rfl
    rw [one] at two
    exact absurd two (by decide)

end Account
end DebridCache
