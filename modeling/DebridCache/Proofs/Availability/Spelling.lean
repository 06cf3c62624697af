import DebridCache.Proofs.Availability.Spoiling

/-!
Looking results up. A hash is normalised when it is asked for and again when it is looked up, each time
for itself; since a normal form is its own, both come to the same hash however it is spelled.
-/

namespace DebridCache

namespace ResultMap

variable {results : ResultMap}

/-- A text can always be looked up; one whose normal form has no status is not cached. -/
theorem isCached_text (results : ResultMap) (q : String) : results.isCached (.str q) =
    .ok (((results.lookup (Hash.normalize q)).map (·.cached)).getD false) := rfl

theorem isCached_congr {q q' : String} (same : Hash.normalize q = Hash.normalize q') :
    results.isCached (.str q) = results.isCached (.str q') := by
  rw [isCached_text, isCached_text, same]

theorem isCached_eq_true_iff {q : String} : results.isCached (.str q) = .ok true ↔
    ∃ status, results.lookup (Hash.normalize q) = some status ∧ status.cached = true := by
  rw [isCached_text]
  cases results.lookup (Hash.normalize q) <;> simp

theorem isCached_of_lookup {h : String} {status : CacheStatus} (normal : Hash.normalize h = h)
    (held : results.lookup h = some status) : results.isCached (.str h) = .ok status.cached := by
  rw [isCached_text, normal, held]
  rfl

theorem key_of_lookup {h : String} {status : CacheStatus} (held : results.lookup h = some status) :
    h ∈ results.map (·.1) := by
  obtain ⟨before, after, rfl, -⟩ := List.lookup_eq_some_iff.mp held
  simp

end ResultMap

namespace Account

/-- After a check a hash is found to be cached, in whatever spelling, if it was asked for in some
spelling and its normal form has a status that is cached. -/
theorem check_spelled {p : Provider} {credential timeout agent : Value} {size : Int} {delay : Binary64}
    {a : Account} (created : create p ⟨credential, timeout, .int size, .float delay, agent⟩ = .ok a)
    {hashes : List String} {c : Client}
    (met : ∀ e ∈ (a.check (.arr (hashes.map .str))).dialogue c, e.2 ≠ .failed .cancelled) :
    ∃ results, ((a.check (.arr (hashes.map .str))).run c).result = .ok results ∧
      (∀ q, (∃ found, results.isCached (.str q) = .ok found) ∧
        (results.isCached (.str q) = .ok true ↔
          ∃ h ∈ hashes, h ≠ "" ∧ Hash.normalize h = Hash.normalize q ∧
            ∃ status, results.lookup (Hash.normalize h) = some status ∧ status.cached = true)) ∧
      (∀ q q', Hash.normalize q = Hash.normalize q' →
        results.isCached (.str q) = results.isCached (.str q')) ∧
      (∀ h status, results.lookup h = some status → results.isCached (.str h) = .ok status.cached) ∧
      (∀ h status, (h, status) ∈ results → results.lookup h = some status) ∧
      ∀ h, Hash.normalize (Hash.normalize h) = Hash.normalize h := by
  rw [create_eq_opened] at created
  cases created
  have regular := opened_regular p credential timeout size delay agent
  generalize opened p credential timeout size delay agent = a at regular met ⊢
  obtain ⟨results, ran, keys⟩ := check_keys_of_met regular hashes (outcomes_of_check regular met)
  have distinct : (results.map (·.1)).Nodup := keys ▸ Hash.nodup_asked hashes
  refine ⟨results, ran, fun q => ⟨⟨_, results.isCached_text q⟩, ?_⟩,
    fun q q' same => ResultMap.isCached_congr same, ?_,
    fun h status member => ResultMap.lookup_of_mem distinct member, Hash.normalize_normalize⟩
  · rw [ResultMap.isCached_eq_true_iff]
    constructor
    · rintro ⟨status, held, cached⟩
      obtain ⟨h, member, some, same⟩ := Hash.mem_asked.mp (keys ▸ ResultMap.key_of_lookup held)
      exact ⟨h, member, some, same, status, same ▸ held, cached⟩
    · rintro ⟨h, -, -, same, status, held, cached⟩
      exact ⟨status, same ▸ held, cached⟩
  · intro h status held
    obtain ⟨spelled, -, -, rfl⟩ := Hash.mem_asked.mp (keys ▸ ResultMap.key_of_lookup held)
    exact ResultMap.isCached_of_lookup (Hash.normalize_normalize spelled) held

theorem check_spelled_of_two :
    ∃ (c : Client) (results : ResultMap),
      create .torbox ⟨.str "key", .null, .int 0, .float (.ofNat 0), .null⟩ = .ok atTorbox ∧
      (∀ e ∈ (atTorbox.check (.arr [.str " AA", .str "cc"])).dialogue c, e.2 ≠ .failed .cancelled) ∧
      ((atTorbox.check (.arr [.str " AA", .str "cc"])).run c).result = .ok results ∧
      results.isCached (.str "aA\n") = .ok true ∧ results.isCached (.str "CC") = .ok false := by
  have met : ∀ e ∈ (atTorbox.check (.arr ([" AA", "cc"].map .str))).dialogue
      ⟨false, [], .answered naming⟩, e.2 ≠ .failed .cancelled := by
    intro e member
    rw [Exchange.dialogue_always _ e member]
    nofun
  obtain ⟨results, ran, -, alike, own, -, -⟩ := check_spelled create_atTorbox met
  have regular : atTorbox.Regular := opened_regular .torbox (.str "key") .null 0 (.ofNat 0) .null
  have whole : atTorbox.batches ["aa", "cc"] = [["aa", "cc"]] := batches_whole rfl nofun
  have ended := (check_ends regular [" AA", "cc"] (outcomes_of_check regular met)).result
  rw [show Hash.asked [" AA", "cc"] = ["aa", "cc"] from rfl, whole] at ended
  have results_eq : results = [("aa", ⟨true, "Torbox", []⟩), ("cc", .uncached "Torbox")] :=
    Except.ok.inj (ran.symm.trans ended)
  refine ⟨_, results, create_atTorbox, met, ran, ?_, ?_⟩
  · rw [alike "aA\n" "aa" (by decide)]
    exact own "aa" ⟨true, "Torbox", []⟩ (results_eq ▸ rfl)
  · rw [alike "CC" "cc" (by decide)]
    exact own "cc" (.uncached "Torbox") (results_eq ▸ rfl)

end Account
end DebridCache
