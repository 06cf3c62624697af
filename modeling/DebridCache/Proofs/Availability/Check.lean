import DebridCache.Proofs.Account
import DebridCache.Proofs.Availability.Answer
import DebridCache.Proofs.Hash
import DebridCache.Proofs.Run
import DebridCache.Proofs.Status

/-!
A check against its reference, batch by batch. Each batch has one request with one outcome, and the
statuses of its hashes are read off that outcome alone. The invariant of the loop is that the hashes of
the batches to come are still uncached, so a batch that fails leaves nothing behind.
-/

namespace DebridCache.Account

open Wire (Sent Outcome Request Response)
open Availability (Reading)

/-- The statuses that the outcome of a batch's request tells. -/
def told (a : Account) (batch : List String) (o : Outcome) : Except Fault ResultMap := do
  let response ← o.response
  let answer ← documentOf (a.question batch) response
  match ← Availability.read a.provider batch answer with
  | .found statuses => return statuses
  | .refused _ => return []

theorem documentOf_failsOnly (request : Request) (r : Response) :
    FailsOnly (· ≠ .cancelled) (documentOf request r) := by
  unfold documentOf Response.document
  split
  · split
    · exact .ok _
    · exact .error nofun
    · exact .error nofun
  · exact .error nofun

theorem told_failsOnly (a : Account) (batch : List String) {o : Outcome}
    (o_steady : o ≠ .failed .cancelled) : FailsOnly (· ≠ .cancelled) (a.told batch o) := by
  have response : FailsOnly (· ≠ .cancelled) o.response := by
    cases o with
    | answered r => exact .ok r
    | failed f =>
        apply FailsOnly.error
        rintro rfl
        exact o_steady rfl
  refine response.bind fun r => (documentOf_failsOnly _ r).bind fun v => ?_
  refine (Availability.read_failsOnly a.provider batch v).bind fun reading => ?_
  cases reading with
  | found statuses => exact .ok statuses
  | refused reason => exact .ok []

/-- What is found of a batch; nothing, if its request failed or was refused. -/
def found (a : Account) (batch : List String) (o : Outcome) : ResultMap :=
  match a.told batch o with
  | .ok statuses => statuses
  | .error _ => []

theorem found_belongs {a : Account} {batch : List String} {o : Outcome}
    {r : String × CacheStatus} (member : r ∈ a.found batch o) :
    Availability.Belongs a.name batch r := by
  unfold found at member
  cases told : a.told batch o with
  | error f =>
      rw [told] at member
      cases member
  | ok statuses =>
      rw [told] at member
      obtain ⟨response, -, told⟩ := ok_of_bind_ok told
      obtain ⟨answer, -, told⟩ := ok_of_bind_ok told
      obtain ⟨reading, read, told⟩ := ok_of_bind_ok told
      cases reading with
      | found held =>
          cases told
          exact Availability.read_belongs read member
      | refused reason =>
          cases told
          cases member

/-- The outcome of each batch's request, asked one after another. -/
def outcomes (a : Account) (c : Client) : List (List String) → List Outcome
  | [] => []
  | b :: bs => c.ask (a.question b) :: outcomes a (c.afterAsk (a.question b)) bs

theorem length_outcomes (a : Account) (c : Client) (bs : List (List String)) :
    (a.outcomes c bs).length = bs.length := by
  induction bs generalizing c with
  | nil => rfl
  | cons b bs ih => exact congrArg Nat.succ (ih _)

theorem outcomes_steady (a : Account) {c : Client} (steady : c.Steady) (bs : List (List String)) :
    ∀ o ∈ a.outcomes c bs, o ≠ .failed .cancelled := by
  induction bs generalizing c with
  | nil =>
      intro o member
      cases member
  | cons b bs ih =>
      intro o member
      rcases List.mem_cons.mp member with rfl | later
      · exact steady.ask (a.question b)
      · exact ih (steady.afterAsk (a.question b)) o later

def asking (a : Account) (c : Client) : List (List String) → List (Sent × Outcome)
  | [] => []
  | b :: bs => c.asking (a.question b) ++ asking a (c.afterAsk (a.question b)) bs

/-- What goes over the wire for a batch whose request had some outcome: nothing where the client is
closed or the request cannot be sent. -/
def exchange (a : Account) (c : Client) (p : List String × Outcome) : Option (Sent × Outcome) :=
  if c.isClosed then none else (a.question p.1).prepare.toOption.map fun sent => (sent, p.2)

theorem asking_eq (a : Account) (c : Client) (bs : List (List String)) :
    a.asking c bs = (bs.zip (a.outcomes c bs)).filterMap (a.exchange c) := by
  induction bs generalizing c with
  | nil => rfl
  | cons b bs ih =>
      have later : a.exchange (c.afterAsk (a.question b)) = a.exchange c := by
        funext p
        rw [exchange, exchange, Client.isClosed_afterAsk]
      have first : c.asking (a.question b) =
          (a.exchange c (b, c.ask (a.question b))).toList := by
        unfold exchange Client.asking Client.ask Client.exchanged Client.reply
        cases (a.question b).prepare <;> cases c.isClosed <;> rfl
      rw [asking, outcomes, List.zip_cons_cons, List.filterMap_cons, ih, later, first]
      cases a.exchange c (b, c.ask (a.question b)) <;> rfl

theorem askBatch_ends (a : Account) (batch : List String) (c : Client) :
    (a.askBatch batch).Ends c (a.told batch (c.ask (a.question batch)))
      (c.afterAsk (a.question batch)) (c.asking (a.question batch)) := by
  have submitted := Exchange.Ends.submit (a.question batch) c
  unfold askBatch told
  cases answered : (c.ask (a.question batch)).response with
  | error f =>
      rw [answered] at submitted
      exact submitted.bind_error
  | ok response =>
      rw [answered] at submitted
      rw [← List.append_nil (c.asking _)]
      refine submitted.bind (.lift_bind fun answer => .lift_bind fun reading => ?_)
      cases reading with
      | found statuses => exact .done statuses _
      | refused reason => exact .note (.done [] _)

/-- A batch that fails is logged and leaves the results as they are. -/
theorem tryBatch_ends (a : Account) (results : ResultMap) (batch : List String) {c : Client}
    (met : c.ask (a.question batch) ≠ .failed .cancelled) :
    (a.tryBatch results batch).Ends c
      (.ok (ResultMap.overlay (a.found batch (c.ask (a.question batch))) results))
      (c.afterAsk (a.question batch)) (c.asking (a.question batch)) := by
  have kept : a.told batch (c.ask (a.question batch)) ≠ .error .cancelled :=
    fun e => a.told_failsOnly batch met _ e rfl
  have attempted := (a.askBatch_ends batch c).attempt kept
  unfold tryBatch found
  rw [← List.append_nil (c.asking _)]
  refine attempted.bind ?_
  cases a.told batch (c.ask (a.question batch)) with
  | ok statuses => exact .done _ _
  | error f =>
      have same : ResultMap.overlay [] results = results :=
        ResultMap.overlay_of_disjoint fun r _ f hf => by cases hf
      rw [same]
      exact .note (.done results _)

def statuses (a : Account) (batch : List String) (o : Outcome) : ResultMap :=
  ResultMap.overlay (a.found batch o) (batch.map fun h => (h, .uncached a.name))

/-- What a check of some batches has to give for the outcomes of their requests. -/
def reference (a : Account) (bs : List (List String)) (os : List Outcome) : ResultMap :=
  (bs.zip os).flatMap fun p => a.statuses p.1 p.2

theorem keys_statuses (a : Account) (batch : List String) (o : Outcome) :
    (a.statuses batch o).map (·.1) = batch := by
  rw [statuses, ResultMap.keys_overlay, keys_each]

theorem keys_reference (a : Account) {bs : List (List String)} {os : List Outcome}
    (same : os.length = bs.length) : (a.reference bs os).map (·.1) = bs.flatten := by
  induction bs generalizing os with
  | nil => rfl
  | cons b bs ih =>
      cases os with
      | nil => cases same
      | cons o os =>
          have rest := ih (Nat.succ.inj same)
          rw [reference] at rest ⊢
          rw [List.zip_cons_cons, List.flatMap_cons, List.map_append, keys_statuses, rest,
            List.flatten_cons]

def leaving (a : Account) (c : Client) (bs : List (List String)) : Client :=
  bs.foldl (fun c b => c.afterAsk (a.question b)) c

theorem consume_cons {α β : Type} (f : β → List α → Exchange β) (start : β) (delay : Binary64)
    (total index : Nat) (b : List α) (bs : List (List α)) :
    ∃ e, (Batch.spaced (.float delay) total index (b :: bs)).consume f start =
      if index = 0 ∨ Batch.waits (.float delay) = false then
        (f start b).bind fun found =>
          (Batch.spaced (.float delay) total (index + 1) bs).consume f found
      else .note e (.sleep (.float delay) ((f start b).bind fun found =>
        (Batch.spaced (.float delay) total (index + 1) bs).consume f found)) := by
  obtain ⟨e, gap⟩ := Batch.gap_float (α := α) delay index total
  refine ⟨e, ?_⟩
  unfold Batch.Feed.consume
  rw [← Exchange.bind_assoc, Batch.spaced, gap]
  by_cases still : index = 0 ∨ Batch.waits (.float delay) = false
  · rw [if_pos still, if_pos still]
    rfl
  · rw [if_neg still, if_neg still]
    rfl

/-- A pause takes part in no dialogue. -/
theorem consume_cons_ends {α β : Type} {f : β → List α → Exchange β} {start : β} {delay : Binary64}
    {total index : Nat} {b : List α} {bs : List (List α)} {c after : Client} {r : Except Fault β}
    {said : List (Sent × Outcome)}
    (h : ((f start b).bind fun found =>
      (Batch.spaced (.float delay) total (index + 1) bs).consume f found).Ends c r after said) :
    ((Batch.spaced (.float delay) total index (b :: bs)).consume f start).Ends c r after said := by
  obtain ⟨e, fed⟩ := consume_cons f start delay total index b bs
  rw [fed]
  split
  · exact h
  · exact .note (.sleep h)

theorem dialogue_consume_cons {α β : Type} (f : β → List α → Exchange β) (start : β)
    (delay : Binary64) (total index : Nat) (b : List α) (bs : List (List α)) (c : Client) :
    ((Batch.spaced (.float delay) total index (b :: bs)).consume f start).dialogue c =
      ((f start b).bind fun found =>
        (Batch.spaced (.float delay) total (index + 1) bs).consume f found).dialogue c :=
  (consume_cons_ends ⟨rfl, rfl, rfl⟩).dialogue

/-- The invariant is that the hashes of the batches to come are still uncached. -/
theorem consume_ends {a : Account} (regular : a.Regular) (total index : Nat)
    (bs : List (List String)) (done : ResultMap) {c : Client}
    (met : ∀ o ∈ a.outcomes c bs, o ≠ .failed .cancelled)
    (distinct : (done.map (·.1) ++ bs.flatten).Nodup) :
    ((Batch.spaced a.batchDelay total index bs).consume a.tryBatch
        (done ++ bs.flatten.map fun h => (h, .uncached a.name))).Ends c
      (.ok (done ++ a.reference bs (a.outcomes c bs))) (a.leaving c bs) (a.asking c bs) := by
  obtain ⟨delay, float⟩ := regular.delay
  rw [float]
  induction bs generalizing index done c with
  | nil => exact .done _ c
  | cons b bs ih =>
      rw [List.flatten_cons] at distinct ⊢
      obtain ⟨-, later, earlier⟩ := List.nodup_append.mp distinct
      obtain ⟨-, -, apart⟩ := List.nodup_append.mp later
      have inside : ∀ f ∈ a.found b (c.ask (a.question b)), f.1 ∈ b :=
        fun f h => (found_belongs h).1
      have before : ResultMap.overlay (a.found b (c.ask (a.question b))) done = done := by
        apply ResultMap.overlay_of_disjoint
        intro r hr f hf
        have new := List.mem_append_left bs.flatten (inside f hf)
        exact (earlier r.1 (List.mem_map_of_mem hr) f.1 new).symm
      have after : ResultMap.overlay (a.found b (c.ask (a.question b)))
          (bs.flatten.map fun h => (h, .uncached a.name)) =
          bs.flatten.map fun h => (h, .uncached a.name) := by
        apply ResultMap.overlay_of_disjoint
        intro r hr f hf
        obtain ⟨h, member, rfl⟩ := List.mem_map.mp hr
        exact apart f.1 (inside f hf) h member
      have laid : ResultMap.overlay (a.found b (c.ask (a.question b)))
          (done ++ (b ++ bs.flatten).map fun h => (h, .uncached a.name)) =
          (done ++ a.statuses b (c.ask (a.question b))) ++
            bs.flatten.map fun h => (h, .uncached a.name) := by
        rw [List.map_append, ResultMap.overlay_append, ResultMap.overlay_append, before, after,
          List.append_assoc]
        rfl
      have tried := a.tryBatch_ends
        (done ++ (b ++ bs.flatten).map fun h => (h, .uncached a.name)) b
        (met _ List.mem_cons_self)
      rw [laid] at tried
      have rest := ih (index + 1) (done ++ a.statuses b (c.ask (a.question b)))
        (fun o later => met o (List.mem_cons_of_mem _ later)) (by
          rw [List.map_append, keys_statuses, List.append_assoc]
          exact distinct)
      have gathered : done ++ a.reference (b :: bs) (a.outcomes c (b :: bs)) =
          done ++ a.statuses b (c.ask (a.question b)) ++
            a.reference bs (a.outcomes (c.afterAsk (a.question b)) bs) :=
        (List.append_assoc _ _ _).symm
      rw [gathered]
      exact consume_cons_ends (tried.bind rest)

theorem outcomes_of_consume {a : Account} (regular : a.Regular) (total index : Nat)
    (bs : List (List String)) (start : ResultMap) {c : Client}
    (met : ∀ e ∈ ((Batch.spaced a.batchDelay total index bs).consume a.tryBatch start).dialogue c,
      e.2 ≠ .failed .cancelled) : ∀ o ∈ a.outcomes c bs, o ≠ .failed .cancelled := by
  obtain ⟨delay, float⟩ := regular.delay
  rw [float] at met
  induction bs generalizing index start c with
  | nil =>
      intro o member
      cases member
  | cons b bs ih =>
      rw [dialogue_consume_cons] at met
      have first : c.ask (a.question b) ≠ .failed .cancelled := by
        intro withdrawn
        obtain ⟨-, sent, member⟩ := Client.asking_of_cancelled withdrawn
        have tried : c.asking (a.question b) <+: (a.tryBatch start b).dialogue c := by
          rw [← (a.askBatch_ends b c).dialogue, ← Exchange.dialogue_attempt]
          exact Exchange.prefix_dialogue_bind _ _ c
        exact met _ ((Exchange.prefix_dialogue_bind _ _ c).subset (tried.subset member)) rfl
      have tried := a.tryBatch_ends start b first
      rw [Exchange.dialogue_bind, tried.result, tried.client] at met
      intro o member
      rcases List.mem_cons.mp member with rfl | later
      · exact first
      · exact ih (index + 1) _ (fun e more => met e (List.mem_append_right _ more)) o later

theorem checkHashes_ends {a : Account} (regular : a.Regular) {hashes : List String}
    (some : hashes ≠ []) (distinct : hashes.Nodup) {c : Client}
    (met : ∀ o ∈ a.outcomes c (a.batches hashes), o ≠ .failed .cancelled) :
    (a.checkHashes hashes).Ends c
      (.ok (a.reference (a.batches hashes) (a.outcomes c (a.batches hashes))))
      (a.leaving c (a.batches hashes)) (a.asking c (a.batches hashes)) := by
  have fed := consume_ends regular (a.batches hashes).length 0 (a.batches hashes) [] met
    (by rw [flatten_batches regular.size]; exact distinct)
  rw [flatten_batches regular.size] at fed
  unfold checkHashes
  rw [feed_eq_spaced regular.size some, ← List.append_nil (a.asking c _)]
  exact fed.bind (.note (.done _ _))

/-- A check gives what the outcomes of its requests tell, batch by batch, and no fault. -/
theorem check_ends {a : Account} (regular : a.Regular) (hashes : List String) {c : Client}
    (met : ∀ o ∈ a.outcomes c (a.batches (Hash.asked hashes)), o ≠ .failed .cancelled) :
    (a.check (.arr (hashes.map .str))).Ends c
      (.ok (a.reference (a.batches (Hash.asked hashes))
        (a.outcomes c (a.batches (Hash.asked hashes)))))
      (a.leaving c (a.batches (Hash.asked hashes)))
      (a.asking c (a.batches (Hash.asked hashes))) := by
  have distinct := Hash.nodup_asked hashes
  unfold check
  rw [Hash.unique_texts]
  cases asked : Hash.asked hashes with
  | nil =>
      have none : a.batches [] = [] := Batch.chunks_nil _
      rw [none]
      exact .done [] c
  | cons h hs =>
      rw [asked] at distinct met
      exact checkHashes_ends regular (List.cons_ne_nil h hs) distinct met

theorem check_keys_of_met {a : Account} (regular : a.Regular) (hashes : List String) {c : Client}
    (met : ∀ o ∈ a.outcomes c (a.batches (Hash.asked hashes)), o ≠ .failed .cancelled) :
    ∃ results, ((a.check (.arr (hashes.map .str))).run c).result = .ok results ∧
      results.map (·.1) = Hash.asked hashes := by
  refine ⟨_, (check_ends regular hashes met).result, ?_⟩
  rw [a.keys_reference (a.length_outcomes c _), flatten_batches regular.size]

theorem check_keys {a : Account} (regular : a.Regular) (hashes : List String) {c : Client}
    (steady : c.Steady) :
    ∃ results, ((a.check (.arr (hashes.map .str))).run c).result = .ok results ∧
      results.map (·.1) = Hash.asked hashes :=
  check_keys_of_met regular hashes (a.outcomes_steady steady _)

theorem outcomes_of_check {a : Account} (regular : a.Regular) {hashes : List String} {c : Client}
    (met : ∀ e ∈ (a.check (.arr (hashes.map .str))).dialogue c, e.2 ≠ .failed .cancelled) :
    ∀ o ∈ a.outcomes c (a.batches (Hash.asked hashes)), o ≠ .failed .cancelled := by
  unfold check at met
  rw [Hash.unique_texts] at met
  cases asked : Hash.asked hashes with
  | nil =>
      have none : a.batches [] = [] := Batch.chunks_nil _
      rw [none]
      intro o member
      cases member
  | cons h hs =>
      rw [asked] at met
      change ∀ e ∈ (a.checkHashes (h :: hs)).dialogue c, _ at met
      unfold checkHashes at met
      rw [feed_eq_spaced regular.size (List.cons_ne_nil h hs)] at met
      apply outcomes_of_consume regular
      intro e member
      exact met e ((Exchange.prefix_dialogue_bind _ _ c).subset member)

theorem dialogue_check {a : Account} (regular : a.Regular) {hashes : List String} {c : Client}
    (met : ∀ e ∈ (a.check (.arr (hashes.map .str))).dialogue c, e.2 ≠ .failed .cancelled) :
    (a.check (.arr (hashes.map .str))).dialogue c =
      ((a.batches (Hash.asked hashes)).zip
        (a.outcomes c (a.batches (Hash.asked hashes)))).filterMap (a.exchange c) := by
  rw [(check_ends regular hashes (outcomes_of_check regular met)).dialogue, asking_eq]

theorem dialogue_tryBatch (a : Account) (results : ResultMap) (batch : List String) (c : Client) :
    (a.tryBatch results batch).dialogue c = c.asking (a.question batch) := by
  unfold tryBatch
  rw [Exchange.bind_eq, Exchange.dialogue_bind, Exchange.dialogue_attempt,
    (a.askBatch_ends batch c).dialogue]
  cases ((a.askBatch batch).attempt.run c).result with
  | error f => exact List.append_nil _
  | ok found => cases found <;> exact List.append_nil _

/-- A check goes on to its second batch unless the request for its first is withdrawn. -/
theorem asking_prefix_check {a : Account} (regular : a.Regular) {hashes b next : List String}
    {bs : List (List String)} (batches : a.batches (Hash.asked hashes) = b :: next :: bs) {c : Client}
    (met : c.ask (a.question b) ≠ .failed .cancelled) :
    c.asking (a.question b) ++ (c.afterAsk (a.question b)).asking (a.question next) <+:
      (a.check (.arr (hashes.map .str))).dialogue c := by
  obtain ⟨delay, float⟩ := regular.delay
  unfold check
  rw [Hash.unique_texts]
  cases asked : Hash.asked hashes with
  | nil =>
      rw [asked, Account.batches, Batch.chunks_nil] at batches
      cases batches
  | cons h hs =>
      show _ <+: (a.checkHashes (h :: hs)).dialogue c
      unfold checkHashes
      dsimp only
      rw [asked] at batches
      rw [feed_eq_spaced regular.size (List.cons_ne_nil h hs), batches]
      apply List.IsPrefix.trans _ (Exchange.prefix_dialogue_bind _ _ c)
      have first := a.tryBatch_ends ((h :: hs).map fun h => (h, .uncached a.name)) b met
      rw [float, dialogue_consume_cons, Exchange.dialogue_bind, first.result, first.client,
        first.dialogue]
      dsimp only
      rw [dialogue_consume_cons, ← a.dialogue_tryBatch _ next]
      exact (List.prefix_append_right_inj _).mpr (Exchange.prefix_dialogue_bind _ _ _)

/-- All that a check sends are questions about its batches. -/
theorem question_of_dialogue {a : Account} (regular : a.Regular) {hashes : List String} {c : Client}
    (met : ∀ e ∈ (a.check (.arr (hashes.map .str))).dialogue c, e.2 ≠ .failed .cancelled)
    {e : Sent × Outcome} (said : e ∈ (a.check (.arr (hashes.map .str))).dialogue c) :
    ∃ b ∈ a.batches (Hash.asked hashes), (a.question b).prepare = .ok e.1 := by
  rw [dialogue_check regular met] at said
  obtain ⟨⟨b, o⟩, paired, exchanged⟩ := List.mem_filterMap.mp said
  refine ⟨b, (List.of_mem_zip paired).1, ?_⟩
  rw [exchange] at exchanged
  split at exchanged
  · cases exchanged
  · obtain ⟨sent, prepared, rfl⟩ := Option.map_eq_some_iff.mp exchanged
    cases question : (a.question b).prepare with
    | error f =>
        rw [question] at prepared
        cases prepared
    | ok other =>
        rw [question] at prepared
        cases prepared
        rfl

end DebridCache.Account
