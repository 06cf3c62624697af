import DebridCache.Proofs.Availability.Check

/-!
A check has no fault of its own: whatever its requests meet, it gives every hash asked for one status in
the name of its provider, and a hash whose request failed is left uncached.
-/

namespace DebridCache

/-- A request that brings no document: it failed, or was answered without success or unreadably. -/
def Wire.Outcome.Failed : Wire.Outcome → Prop
  | .failed _ => True
  | .answered r => r.isSuccess = false ∨ ∃ f, r.document = .error f

namespace Account

open Wire (Outcome)

theorem found_of_failed (a : Account) (batch : List String) {o : Outcome} (failed : o.Failed) :
    a.found batch o = [] := by
  cases o with
  | failed f => rfl
  | answered r =>
      unfold found told
      rcases failed with rejected | ⟨f, unreadable⟩
      · have document : documentOf (a.question batch) r =
            .error (.rejected r.status (a.question batch).url) := by
          rw [documentOf, rejected]
          rfl
        simp only [Outcome.response, bind, Except.bind, document]
      · have document : ∃ g, documentOf (a.question batch) r = .error g := by
          unfold documentOf
          split
          · exact ⟨f, unreadable⟩
          · exact ⟨_, rfl⟩
        obtain ⟨g, document⟩ := document
        simp only [Outcome.response, bind, Except.bind, document]

theorem service_statuses (a : Account) (batch : List String) (o : Outcome)
    {r : String × CacheStatus} (member : r ∈ a.statuses batch o) : r.2.service = a.name := by
  obtain ⟨pair, uncached, rfl⟩ := List.mem_map.mp member
  obtain ⟨h, -, rfl⟩ := List.mem_map.mp uncached
  show ((List.lookup h (a.found batch o)).getD (.uncached a.name)).service = a.name
  cases held : List.lookup h (a.found batch o) with
  | none => rfl
  | some status =>
      obtain ⟨before, after, split, -⟩ := List.lookup_eq_some_iff.mp held
      have inside : (h, status) ∈ a.found batch o := by
        rw [split]
        exact List.mem_append_right before List.mem_cons_self
      exact (found_belongs inside).2

theorem statuses_of_failed (a : Account) (b : List String) {o : Outcome} (failed : o.Failed) :
    a.statuses b o = b.map fun h => (h, .uncached a.name) := by
  rw [statuses, a.found_of_failed b failed]
  exact ResultMap.overlay_of_disjoint fun r _ f hf => by cases hf

theorem uncached_of_failed (a : Account) {bs : List (List String)} {os : List Outcome}
    {b : List String} {o : Outcome} (asked : (b, o) ∈ bs.zip os) (failed : o.Failed) {h : String}
    (member : h ∈ b) : (h, .uncached a.name) ∈ a.reference bs os := by
  refine List.mem_flatMap.mpr ⟨(b, o), asked, ?_⟩
  rw [a.statuses_of_failed b failed]
  exact List.mem_map_of_mem member

def unknown (a : Account) (hashes : List String) : ResultMap :=
  hashes.map fun h => (h, .uncached a.name)

theorem reference_of_failed (a : Account) {bs : List (List String)} {os : List Outcome} (same : os.length = bs.length)
    (failed : ∀ o ∈ os, o.Failed) : a.reference bs os = a.unknown bs.flatten := by
  induction bs generalizing os with
  | nil => rfl
  | cons b bs ih =>
      cases os with
      | nil => cases same
      | cons o os =>
          have rest := ih (Nat.succ.inj same) fun o later => failed o (List.mem_cons_of_mem _ later)
          have first := a.statuses_of_failed b (failed o List.mem_cons_self)
          unfold reference unknown at rest ⊢
          rw [List.zip_cons_cons, List.flatMap_cons, rest, first, List.flatten_cons, List.map_append]

/-- A check ends with a status for every hash asked for, each once, whatever the transport does short of
withdrawing the call. -/
theorem check_total (p : Provider) (credential timeout agent : Value) (size : Int)
    (delay : Binary64) (hashes : List String) (c : Client) (steady : c.Steady) :
    ∃ a results,
      create p ⟨credential, timeout, .int size, .float delay, agent⟩ = .ok a ∧
      ((a.check (.arr (hashes.map .str))).run c).result = .ok results ∧
      Hash.unique (.arr (hashes.map .str)) = .ok (results.map (·.1)) ∧
      (results.map (·.1)).Nodup ∧
      (a.check (.arr (hashes.map .str))).dialogue c = ((a.batches (results.map (·.1))).zip
        (a.outcomes c (a.batches (results.map (·.1))))).filterMap (a.exchange c) ∧
      (∀ r ∈ results, r.2.service = p.displayName) ∧
      (∀ b o, (b, o) ∈ (a.batches (results.map (·.1))).zip
          (a.outcomes c (a.batches (results.map (·.1)))) → o.Failed →
        ∀ h ∈ b, results.lookup h = some (.uncached p.displayName)) ∧
      ((∀ h ∈ hashes, h = "") →
        results = [] ∧ ((a.check (.arr (hashes.map .str))).run c).events = []) := by
  have regular := opened_regular p credential timeout size delay agent
  have name : (opened p credential timeout size delay agent).name = p.displayName := by
    rw [Account.name, opened_provider]
  generalize made : opened p credential timeout size delay agent = a at regular name
  have ends := check_ends regular hashes (a.outcomes_steady steady _)
  have keys : (a.reference (a.batches (Hash.asked hashes))
      (a.outcomes c (a.batches (Hash.asked hashes)))).map (·.1) = Hash.asked hashes := by
    rw [a.keys_reference (a.length_outcomes c _), flatten_batches regular.size]
  refine ⟨a, _, ?_, ends.result, ?_, ?_, ?_, ?_, ?_, ?_⟩
  · rw [create_eq_opened, made]
  · rw [Hash.unique_texts, keys]
  · rw [keys]
    exact Hash.nodup_asked hashes
  · rw [keys, ends.dialogue, a.asking_eq]
  · intro r member
    obtain ⟨pair, -, inside⟩ := List.mem_flatMap.mp member
    rw [← name]
    exact a.service_statuses pair.1 pair.2 inside
  · intro b o asked failed h member
    rw [keys] at asked
    apply ResultMap.lookup_of_mem
    · rw [keys]
      exact Hash.nodup_asked hashes
    · rw [← name]
      exact a.uncached_of_failed asked failed member
  · intro empty
    have none : Hash.asked hashes = [] := Hash.asked_eq_nil empty
    have batches : a.batches [] = [] := Batch.chunks_nil _
    constructor
    · rw [none, batches]
      rfl
    · unfold check
      rw [Hash.unique_texts, none]
      rfl

theorem check_total_of_timeout :
    ∃ (c : Client) (a : Account) (results : ResultMap),
      c.Steady ∧ c.reply = .failed (.transport "ReadTimeout" "") ∧
      create .torbox ⟨.str "key", .null, .int 0, .float (.ofNat 0), .null⟩ = .ok a ∧
      ((a.check (.arr [.str " ABC ", .str "abc"])).run c).result = .ok results ∧
      results.map (·.1) = ["abc"] := by
  have steady : Client.Steady ⟨false, [], .failed (.transport "ReadTimeout" "")⟩ :=
    Client.steady_always (by intro same; cases same)
  obtain ⟨a, results, created, ran, keys, -⟩ :=
    check_total .torbox (.str "key") .null .null 0 (.ofNat 0) [" ABC ", "abc"] _ steady
  have expected : Hash.unique (.arr ([" ABC ", "abc"].map .str)) = .ok ["abc"] := rfl
  rw [expected] at keys
  exact ⟨_, a, results, steady, rfl, created, ran, (Except.ok.inj keys).symm⟩

end Account
end DebridCache
