import DebridCache.Proofs.Availability.Check

/-!
Real-Debrid's statuses, hash by hash. What is said of a hash is read off the outcome of its own batch's
request, and there off the entry of that hash alone.
-/

namespace DebridCache

open Wire (Outcome)

namespace Wire.Outcome

/-- The outcome brings an object that has some variants of a hash, at least one. -/
def Offers (o : Outcome) (h : String) (files : List Value) : Prop :=
  ∃ r members entry, o = .answered r ∧ r.isSuccess = true ∧ r.document = .ok (.obj members) ∧
    members.lookup h = some (.obj entry) ∧ entry.lookup "rd" = some (.arr files) ∧ files ≠ []

/-- Two outcomes that say the same of some hashes: they are one, or both bring an object and the objects
have the same entries for these hashes. -/
def SaysSame (hashes : List String) (o p : Outcome) : Prop :=
  o = p ∨ ∃ r s ms ns, o = .answered r ∧ p = .answered s ∧ r.isSuccess = true ∧
    s.isSuccess = true ∧ r.document = .ok (.obj ms) ∧ s.document = .ok (.obj ns) ∧
    ∀ h ∈ hashes, ms.lookup h = ns.lookup h

end Wire.Outcome

namespace Availability

def documentOrNull : Outcome → Value
  | .answered r => if r.isSuccess then r.document.toOption.getD .null else .null
  | .failed _ => .null

def variantStatus (h : String) (o : Outcome) : CacheStatus :=
  let files := variants (documentOrNull o) h
  ⟨!files.isEmpty, Provider.realDebrid.displayName, files⟩

theorem documentOrNull_answered {r : Wire.Response} {v : Value} (success : r.isSuccess = true)
    (document : r.document = .ok v) : documentOrNull (.answered r) = v := by
  rw [documentOrNull, if_pos success, document]
  rfl

theorem documentOrNull_eq (request : Wire.Request) (o : Outcome) :
    documentOrNull o = (o.response >>= Account.documentOf request).toOption.getD .null := by
  cases o with
  | failed f => rfl
  | answered r =>
      show _ = (Account.documentOf request r).toOption.getD .null
      rw [documentOrNull, Account.documentOf]
      split <;> rfl

theorem variants_obj (members : List (String × Value)) (h : String) :
    variants (.obj members) h =
      match ((members.lookup h).getD .null).memberOrNull "rd" with
      | .arr items => items
      | _ => [] := rfl

theorem answered_of_document {o : Outcome} {v : Value} (present : v ≠ .null)
    (h : documentOrNull o = v) :
    ∃ r, o = .answered r ∧ r.isSuccess = true ∧ r.document = .ok v := by
  cases o with
  | failed f => exact absurd h.symm present
  | answered r =>
      refine ⟨r, rfl, ?_⟩
      rw [documentOrNull] at h
      cases success : r.isSuccess with
      | false =>
          rw [success] at h
          exact absurd h.symm present
      | true =>
          rw [success, if_pos rfl] at h
          cases document : r.document with
          | error f =>
              rw [document] at h
              exact absurd h.symm present
          | ok w =>
              rw [document] at h
              exact ⟨rfl, congrArg Except.ok h⟩

theorem offers_of_variants {h : String} {o : Outcome}
    (some : variants (documentOrNull o) h ≠ []) : o.Offers h (variants (documentOrNull o) h) := by
  have listed : ((documentOrNull o).memberOrNull h).memberOrNull "rd" =
      .arr (variants (documentOrNull o) h) := by
    unfold variants at some ⊢
    split at some
    · assumption
    · exact absurd rfl some
  obtain ⟨entry, held, rd⟩ := lookup_of_memberOrNull (by intro e; cases e) listed
  obtain ⟨members, document, entered⟩ := lookup_of_memberOrNull (by intro e; cases e) held
  obtain ⟨r, answered, success, read⟩ := answered_of_document (by intro e; cases e) document
  exact ⟨r, members, entry, answered, success, read, entered, rd, some⟩

theorem variants_eq_iff (h : String) (o : Outcome) {files : List Value} (some : files ≠ []) :
    variants (documentOrNull o) h = files ↔ o.Offers h files := by
  constructor
  · rintro rfl
    exact offers_of_variants some
  · rintro ⟨r, members, entry, rfl, success, document, held, listed, -⟩
    rw [documentOrNull_answered success document, variants_obj, held]
    show (match (entry.lookup "rd").getD .null with
      | .arr items => items
      | _ => []) = files
    rw [listed]
    rfl

theorem variantStatus_eq_iff (h : String) (o : Outcome) (files : List Value) :
    variantStatus h o = ⟨true, Provider.realDebrid.displayName, files⟩ ↔ o.Offers h files := by
  unfold variantStatus
  constructor
  · intro same
    injection same with cached _ told
    have some : variants (documentOrNull o) h ≠ [] := by
      intro none
      rw [none] at cached
      cases cached
    rw [← told]
    exact offers_of_variants some
  · intro offers
    have some : files ≠ [] := by
      obtain ⟨_, _, _, _, _, _, _, _, some⟩ := offers
      exact some
    rw [(variants_eq_iff h o some).mpr offers]
    cases files with
    | nil => exact absurd rfl some
    | cons file rest => rfl

theorem variantStatus_eq_uncached {h : String} {o : Outcome} (none : ∀ files, ¬ o.Offers h files) :
    variantStatus h o = .uncached Provider.realDebrid.displayName := by
  have empty : variants (documentOrNull o) h = [] := by
    by_cases some : variants (documentOrNull o) h = []
    · exact some
    · exact absurd (offers_of_variants some) (none _)
  rw [variantStatus, empty]
  rfl

theorem variantStatus_congr {hashes : List String} {o p : Outcome}
    (same : o.SaysSame hashes p) {h : String} (member : h ∈ hashes) :
    variantStatus h o = variantStatus h p := by
  rcases same with rfl | ⟨r, s, ms, ns, rfl, rfl, hr, hs, dr, ds, entries⟩
  · rfl
  · unfold variantStatus
    rw [documentOrNull_answered hr dr, documentOrNull_answered hs ds, variants_obj, variants_obj,
      entries h member]

end Availability

namespace Account

open Availability (variantStatus documentOrNull)

theorem told_eq (a : Account) (batch : List String) (o : Outcome) :
    a.told batch o = (o.response >>= documentOf (a.question batch)) >>= fun answer => do
      match ← Availability.read a.provider batch answer with
      | .found statuses => return statuses
      | .refused _ => return [] := by
  unfold told
  cases o.response <;> rfl

theorem statuses_realDebrid {a : Account} (provider : a.provider = .realDebrid)
    (batch : List String) (o : Outcome) :
    a.statuses batch o = batch.map fun h => (h, variantStatus h o) := by
  have name : a.name = Provider.realDebrid.displayName := congrArg Provider.displayName provider
  unfold statuses found
  rw [told_eq, provider, name]
  have whole := Availability.documentOrNull_eq (a.question batch) o
  cases document : o.response >>= documentOf (a.question batch) with
  | error f =>
      have null : documentOrNull o = .null := by
        rw [whole, document]
        rfl
      have plain : (fun h => (h, variantStatus h o)) =
          fun h => (h, CacheStatus.uncached Provider.realDebrid.displayName) := by
        funext h
        rw [variantStatus, null]
        rfl
      rw [plain]
      exact ResultMap.overlay_of_disjoint fun r _ f hf => by cases hf
  | ok v =>
      have told : documentOrNull o = v := by
        rw [whole, document]
        rfl
      have each : (fun h => (h, variantStatus h o)) = fun h =>
          (h, CacheStatus.mk (!(Availability.variants v h).isEmpty)
            Provider.realDebrid.displayName (Availability.variants v h)) := by
        funext h
        rw [variantStatus, told]
      rw [each]
      exact ResultMap.overlay_map batch _ _

/-- The status at a place is that of its hash, told by the outcome at the place's own batch. -/
theorem reference_at {a : Account} (provider : a.provider = .realDebrid) {s : Nat} (positive : 0 < s)
    {u : List String} {os : List Outcome} (same : os.length = (Batch.chunks s u).length) {i : Nat}
    {h : String} (asked : u[i]? = some h) :
    ∃ b o, (Batch.chunks s u)[i / s]? = some b ∧ h ∈ b ∧ os[i / s]? = some o ∧
      (a.reference (Batch.chunks s u) os)[i]? = some (h, variantStatus h o) := by
  have mapped : a.reference (Batch.chunks s u) os =
      ((Batch.chunks s u).zip os).flatMap fun p => p.1.map fun h => (h, variantStatus h p.2) := by
    unfold reference
    congr 1
    funext p
    exact statuses_realDebrid provider p.1 p.2
  rw [mapped]
  exact Batch.getElem?_flatMap_chunks positive (fun o h => (h, variantStatus h o)) u os same i h asked

theorem reference_past {a : Account} {s : Nat} (positive : 0 < s) {u : List String}
    {os : List Outcome} (same : os.length = (Batch.chunks s u).length) {i : Nat}
    (past : u[i]? = none) : (a.reference (Batch.chunks s u) os)[i]? = none := by
  have keys := a.keys_reference same
  rw [Batch.flatten_chunks positive] at keys
  rw [← keys, List.getElem?_map, Option.map_eq_none_iff] at past
  exact past

/-- The status of each hash is told by the one outcome of its own batch's request, and two checks give
the same wherever these outcomes say the same. -/
theorem check_variants (credential timeout agent : Value) (size : Int) (delay : Binary64)
    (hashes : List String) (c : Client) (steady : c.Steady) :
    ∃ (a : Account) (s : Nat) (u : List String) (results : ResultMap),
      create .realDebrid ⟨credential, timeout, .int size, .float delay, agent⟩ = .ok a ∧
      a.batchSize = .int s ∧
      Hash.unique (.arr (hashes.map .str)) = .ok u ∧
      ((a.check (.arr (hashes.map .str))).run c).result = .ok results ∧
      (a.check (.arr (hashes.map .str))).dialogue c =
        ((Batch.chunks s u).zip (a.outcomes c (Batch.chunks s u))).filterMap (a.exchange c) ∧
      results.map (·.1) = u ∧
      (∀ i h, u[i]? = some h → ∃ o status,
        (a.outcomes c (Batch.chunks s u))[i / s]? = some o ∧ results[i]? = some (h, status) ∧
        (∀ files, status = ⟨true, "Real-Debrid", files⟩ ↔ o.Offers h files) ∧
        ((∀ files, ¬ o.Offers h files) → status = .uncached "Real-Debrid")) ∧
      (∀ r ∈ results, r.2.cached = true ↔ r.2.files ≠ []) ∧
      ∀ (d : Client), d.Steady → ∃ others : ResultMap,
        ((a.check (.arr (hashes.map .str))).run d).result = .ok others ∧
        ((∀ (j : Nat) (b : List String) (o p : Outcome), (Batch.chunks s u)[j]? = some b →
          (a.outcomes c (Batch.chunks s u))[j]? = some o →
          (a.outcomes d (Batch.chunks s u))[j]? = some p → o.SaysSame b p) → others = results) ∧
        (∀ k, (∀ j, j ≠ k → (a.outcomes c (Batch.chunks s u))[j]? =
          (a.outcomes d (Batch.chunks s u))[j]?) →
          ∀ i, i / s ≠ k → others[i]? = results[i]?) := by
  have regular := opened_regular .realDebrid credential timeout size delay agent
  obtain ⟨s, bound, positive⟩ : ∃ s : Nat, max 1 (min size maxBatchSize) = (s : Int) ∧ 0 < s := by
    have least := Int.le_max_left 1 (min size maxBatchSize)
    exact ⟨(max 1 (min size maxBatchSize)).toNat, by omega, by omega⟩
  have limit : (opened .realDebrid credential timeout size delay agent).batchSize = .int s :=
    congrArg Value.int bound
  generalize made : opened .realDebrid credential timeout size delay agent = a at regular limit
  have provider : a.provider = .realDebrid := by
    rw [← made, opened_provider]
  have batches : a.batches (Hash.asked hashes) = Batch.chunks s (Hash.asked hashes) := by
    rw [Account.batches, stride, limit]
    rfl
  have ends (d : Client) (steady : d.Steady) :=
    check_ends regular hashes (a.outcomes_steady steady _)
  rw [batches] at ends
  have same (d : Client) := a.length_outcomes d (Batch.chunks s (Hash.asked hashes))
  refine ⟨a, s, Hash.asked hashes, _, ?_, limit, Hash.unique_texts hashes, (ends c steady).result,
    ?_, ?_, ?_, ?_, ?_⟩
  · rw [create_eq_opened, made]
  · rw [(ends c steady).dialogue, a.asking_eq]
  · rw [a.keys_reference (same c), Batch.flatten_chunks positive]
  · intro i h asked
    obtain ⟨b, o, -, -, met, told⟩ := reference_at provider positive (same c) asked
    exact ⟨o, variantStatus h o, met, told, Availability.variantStatus_eq_iff h o,
      Availability.variantStatus_eq_uncached⟩
  · intro r member
    obtain ⟨pair, -, inside⟩ := List.mem_flatMap.mp member
    rw [statuses_realDebrid provider] at inside
    obtain ⟨h, -, rfl⟩ := List.mem_map.mp inside
    simp [variantStatus]
  · intro d steady
    refine ⟨_, (ends d steady).result, ?_, ?_⟩
    · intro alike
      apply List.ext_getElem?
      intro i
      cases asked : (Hash.asked hashes)[i]? with
      | none =>
          rw [reference_past positive (same d) asked, reference_past positive (same c) asked]
      | some h =>
          obtain ⟨b, o, hb, inside, ho, told⟩ := reference_at provider positive (same c) asked
          obtain ⟨-, p, -, -, hp, others⟩ := reference_at provider positive (same d) asked
          rw [told, others, Availability.variantStatus_congr (alike _ b o p hb ho hp) inside]
    · intro k agree i outside
      cases asked : (Hash.asked hashes)[i]? with
      | none =>
          rw [reference_past positive (same d) asked, reference_past positive (same c) asked]
      | some h =>
          obtain ⟨-, o, -, -, ho, told⟩ := reference_at provider positive (same c) asked
          obtain ⟨-, p, -, -, hp, others⟩ := reference_at provider positive (same d) asked
          have met := agree (i / s) outside
          rw [ho, hp] at met
          rw [told, others, Option.some.inj met]

theorem check_variants_of_empty_object :
    ∃ (c : Client) (a : Account) (s : Nat) (results : ResultMap),
      c.Steady ∧ c.reply = .answered ⟨200, [123, 125], 1000⟩ ∧
      create .realDebrid ⟨.str "key", .null, .int 1, .float (.ofNat 0), .null⟩ = .ok a ∧
      a.batchSize = .int s ∧
      ((a.check (.arr [.str "AA", .str "bb"])).run c).result = .ok results ∧
      results.map (·.1) = ["aa", "bb"] ∧
      (∀ r ∈ results, r.2.cached = true ↔ r.2.files ≠ []) := by
  have steady : Client.Steady ⟨false, [], .answered ⟨200, [123, 125], 1000⟩⟩ :=
    Client.steady_always (Outcome.met_of_answered rfl)
  obtain ⟨a, s, u, results, created, size, asked, ran, -, keys, -, listed, -⟩ :=
    check_variants (.str "key") .null .null 1 (.ofNat 0) ["AA", "bb"] _ steady
  have expected : Hash.unique (.arr (["AA", "bb"].map .str)) = .ok ["aa", "bb"] := rfl
  rw [expected] at asked
  rw [← Except.ok.inj asked] at keys
  exact ⟨_, a, s, results, steady, rfl, created, size, ran, keys, listed⟩

end Account
end DebridCache
