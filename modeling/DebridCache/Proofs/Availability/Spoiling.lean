import DebridCache.Proofs.Availability.Entries

/-!
What the entries of one answer make of a check. Every hash has the status that its own entry gives, but
one entry whose files cannot be listed spoils the answer for all of them.
-/

namespace DebridCache

open Wire (Outcome)

namespace Account

/-- An unspoiled answer gives each hash the status of its own entry; a spoiled one gives none. -/
theorem statuses_entries {a : Account} {batch : List String} (distinct : batch.Nodup)
    {r : Wire.Response} {answer : Value} (success : r.isSuccess = true)
    (document : r.document = .ok answer) (lists : a.provider.Lists answer) :
    (a.provider.Spoiled batch answer →
        a.statuses batch (.answered r) = batch.map fun h => (h, .uncached a.name)) ∧
      (¬ a.provider.Spoiled batch answer → a.statuses batch (.answered r) =
        batch.map fun h => (h, a.provider.statusOf (a.provider.entryIn? batch answer h))) := by
  obtain ⟨listed, listing⟩ : ∃ listed, a.provider.Listing batch answer listed := by
    cases provider : a.provider with
    | realDebrid =>
        rw [provider] at lists
        cases lists
    | torbox => exact Provider.listing_torbox (provider ▸ lists)
    | allDebrid => exact Provider.listing_allDebrid distinct (provider ▸ lists)
  constructor
  · rintro ⟨h, asked, entry, belongs, bad⟩
    have present := listing.whole h asked
    rw [belongs] at present
    obtain ⟨x, inside, own⟩ : ∃ x ∈ listed, x.2 = some entry := by
      cases found : listed.lookup h with
      | none =>
          rw [found] at present
          cases present
      | some item =>
          obtain ⟨before, after, split, -⟩ := List.lookup_eq_some_iff.mp found
          rw [found] at present
          refine ⟨(h, item), ?_, present⟩
          rw [split]
          exact List.mem_append_right before List.mem_cons_self
    have untold : ∃ f, a.told batch (.answered r) = .error f := by
      rw [told_answered batch success document, listing.read]
      cases all : listed.mapM fun x => (do return (x.1, ← a.provider.readEntry x.2) :
          Except Fault (String × CacheStatus)) with
      | error f => exact ⟨f, rfl⟩
      | ok found =>
          obtain ⟨row, single⟩ := exists_of_mapM_ok all inside
          rw [own, Provider.readEntry_unlistable _ bad] at single
          cases single
    obtain ⟨f, untold⟩ := untold
    rw [statuses, found, untold]
    exact ResultMap.overlay_of_disjoint fun _ _ f member => by cases member
  · intro unspoiled
    have each (x : String × Option Value) (member : x ∈ listed) :
        (do return (x.1, ← a.provider.readEntry x.2) : Except Fault (String × CacheStatus)) =
          .ok (x.1, a.provider.statusOf x.2) := by
      obtain ⟨asked, own⟩ := listing.own x member
      rw [a.provider.readEntry_listable]
      · rfl
      · intro entry present bad
        exact unspoiled ⟨x.1, asked, entry, own.trans present, bad⟩
    have told : a.told batch (.answered r) =
        .ok (listed.map fun x => (x.1, a.provider.statusOf x.2)) := by
      apply told_of_read success document
      rw [listing.read, mapM_ok_of_forall each]
      rfl
    rw [statuses, found, told, ResultMap.overlay, List.map_map]
    refine List.map_congr_left fun h asked => congrArg (Prod.mk h) ?_
    rw [← listing.whole h asked]
    show ((listed.map fun x => (x.1, a.provider.statusOf x.2)).lookup h).getD _ = _
    rw [lookup_map fun _ => a.provider.statusOf]
    cases listed.lookup h with
    | none => rfl
    | some item => rfl

def AnsweredBy (a : Account) (c : Client) (hashes : List String) (answer : Value) : Prop :=
  ∃ sent r, (a.check (.arr (hashes.map .str))).dialogue c = [(sent, .answered r)] ∧
    r.isSuccess = true ∧ r.document = .ok answer

theorem AnsweredBy.met {a : Account} {c : Client} {hashes : List String} {answer : Value}
    (answered : a.AnsweredBy c hashes answer) :
    ∀ e ∈ (a.check (.arr (hashes.map .str))).dialogue c, e.2 ≠ .failed .cancelled := by
  obtain ⟨sent, r, said, -, -⟩ := answered
  rw [said]
  intro e member
  cases List.mem_singleton.mp member
  exact Outcome.met_of_answered rfl

theorem check_answered {a : Account} (regular : a.Regular) (unlimited : a.batchSize = .null)
    {hashes : List String} {c : Client} {answer : Value} (answered : a.AnsweredBy c hashes answer) :
    ∃ r, r.isSuccess = true ∧ r.document = .ok answer ∧
      ((a.check (.arr (hashes.map .str))).run c).result =
        .ok (a.statuses (Hash.asked hashes) (.answered r)) := by
  have met := answered.met
  obtain ⟨sent, r, said, success, document⟩ := answered
  refine ⟨r, success, document, ?_⟩
  have result := (check_ends regular hashes (outcomes_of_check regular met)).result
  have paired := dialogue_check regular met
  rw [said] at paired
  have nonempty : Hash.asked hashes ≠ [] := by
    intro none
    have batches : a.batches [] = [] := Batch.chunks_nil _
    rw [none, batches] at paired
    cases paired
  rw [batches_whole unlimited nonempty] at paired result
  have reply : c.ask (a.question (Hash.asked hashes)) = .answered r := by
    change [(sent, Outcome.answered r)] =
      [(Hash.asked hashes, c.ask (a.question (Hash.asked hashes)))].filterMap (a.exchange c) at paired
    cases exchanged : a.exchange c (Hash.asked hashes, c.ask (a.question (Hash.asked hashes))) with
    | none =>
        rw [List.filterMap_cons, exchanged] at paired
        cases paired
    | some e =>
        rw [List.filterMap_cons, exchanged] at paired
        cases paired
        unfold exchange at exchanged
        split at exchanged
        · cases exchanged
        · obtain ⟨_, -, same⟩ := Option.map_eq_some_iff.mp exchanged
          exact congrArg Prod.snd same
  rw [result, outcomes, reply]
  simp [reference, outcomes]

theorem answeredBy_always {a : Account} (regular : a.Regular) (unlimited : a.batchSize = .null)
    {r : Wire.Response} (reaches : a.Reaches ⟨false, [], .answered r⟩) {hashes : List String}
    (nonempty : Hash.asked hashes ≠ []) (plain : ∀ h ∈ Hash.asked hashes, Hash.Plain h)
    {answer : Value} (success : r.isSuccess = true) (document : r.document = .ok answer) :
    a.AnsweredBy ⟨false, [], .answered r⟩ hashes answer := by
  have always := Exchange.dialogue_always (a.check (.arr (hashes.map .str))) (o := .answered r)
  have met := fun e said => Outcome.met_of_answered (always e said)
  have few : a.provider = .realDebrid → (Hash.asked hashes).length ≤ 40 := by
    intro provider
    obtain ⟨n, -, size⟩ := regular.limit provider
    rw [unlimited] at size
    cases size
  obtain ⟨sent, prepared⟩ := question_sendable reaches few plain
  refine ⟨sent, r, ?_, success, document⟩
  have reply : Client.ask ⟨false, [], .answered r⟩ (a.question (Hash.asked hashes)) = .answered r :=
    Client.ask_of_prepare prepared _
  rw [dialogue_check regular met, batches_whole unlimited nonempty, outcomes, reply]
  show [(Hash.asked hashes, Outcome.answered r)].filterMap _ = _
  rw [List.filterMap_cons, exchange, prepared]
  rfl

theorem unlimited_of_created {p : Provider} {credential timeout agent : Value} {size : Int}
    {delay : Binary64} {a : Account}
    (created : create p ⟨credential, timeout, .int size, .float delay, agent⟩ = .ok a)
    (other : p ≠ .realDebrid) : a.provider = p ∧ a.Regular ∧ a.batchSize = .null := by
  rw [create_eq_opened] at created
  cases created
  refine ⟨opened_provider .., opened_regular .., ?_⟩
  cases p with
  | realDebrid => exact absurd rfl other
  | torbox => rfl
  | allDebrid => rfl

/-- A check whose answer lists entries gives every hash the status of its own entry, if no entry has
files that cannot be listed. Else it gives none. -/
theorem check_listed {p : Provider} {credential timeout agent : Value} {size : Int} {delay : Binary64}
    {a : Account} (created : create p ⟨credential, timeout, .int size, .float delay, agent⟩ = .ok a)
    {hashes : List String} {c : Client} {answer : Value} (answered : a.AnsweredBy c hashes answer)
    (lists : p.Lists answer) :
    (p.Spoiled (Hash.asked hashes) answer → ((a.check (.arr (hashes.map .str))).run c).result =
        .ok ((Hash.asked hashes).map fun h => (h, .uncached p.displayName))) ∧
      (¬ p.Spoiled (Hash.asked hashes) answer → ((a.check (.arr (hashes.map .str))).run c).result =
        .ok ((Hash.asked hashes).map fun h =>
          (h, p.statusOf (p.entryIn? (Hash.asked hashes) answer h)))) := by
  have other : p ≠ .realDebrid := by
    rintro rfl
    cases lists
  obtain ⟨rfl, regular, unlimited⟩ := unlimited_of_created created other
  obtain ⟨r, success, document, result⟩ := check_answered regular unlimited answered
  have entries := statuses_entries (Hash.nodup_asked hashes) success document lists
  rw [name] at entries
  rw [result]
  exact ⟨fun spoiled => congrArg _ (entries.1 spoiled), fun unspoiled => congrArg _ (entries.2 unspoiled)⟩

/-- The entry of a hash decides alone whether it is cached, and says nothing about the others, but for
one thing: where the files of some entry cannot be listed, every hash is left uncached. -/
theorem check_entries {p : Provider} {credential timeout agent : Value} {size : Int} {delay : Binary64}
    {a : Account} (created : create p ⟨credential, timeout, .int size, .float delay, agent⟩ = .ok a)
    {hashes : List String} {c : Client} {answer : Value} (answered : a.AnsweredBy c hashes answer)
    (lists : p.Lists answer) :
    ∃ u results, Hash.unique (.arr (hashes.map .str)) = .ok u ∧
      ((a.check (.arr (hashes.map .str))).run c).result = .ok results ∧ results.map (·.1) = u ∧
      (p.Spoiled u answer → ∀ h ∈ u, results.lookup h = some (.uncached p.displayName)) ∧
      (¬ p.Spoiled u answer → ∀ h ∈ u, ∃ status, results.lookup h = some status ∧
        (status.cached = true ↔ p.Says u answer h)) ∧
      ∀ c' other h results', a.AnsweredBy c' hashes other → p.Lists other →
        p.SameBut u h answer other → (p.Spoiled u answer ↔ p.Spoiled u other) →
        ((a.check (.arr (hashes.map .str))).run c').result = .ok results' →
        ∀ g ∈ u, g ≠ h → results'.lookup g = results.lookup g := by
  obtain ⟨spoiling, sparing⟩ := check_listed created answered lists
  by_cases spoiled : p.Spoiled (Hash.asked hashes) answer
  · refine ⟨_, _, Hash.unique_texts hashes, spoiling spoiled, keys_each _ _, ?_, ?_, ?_⟩
    · intro _ h asked
      exact lookup_map_of_mem _ asked
    · exact fun unspoiled => absurd spoiled unspoiled
    · intro c' other h results' answered' lists' _ alike result' g asked _
      rw [(check_listed created answered' lists').1 (alike.mp spoiled)] at result'
      cases result'
      rfl
  · refine ⟨_, _, Hash.unique_texts hashes, sparing spoiled, keys_each _ _, ?_, ?_, ?_⟩
    · exact fun bad => absurd bad spoiled
    · intro _ h asked
      exact ⟨_, lookup_map_of_mem _ asked, (Provider.says_iff lists h).symm⟩
    · intro c' other h results' answered' lists' same alike result' g asked apart
      rw [(check_listed created answered' lists').2 fun bad => spoiled (alike.mpr bad)] at result'
      cases result'
      rw [lookup_map_of_mem _ asked, lookup_map_of_mem _ asked, Provider.entryIn?_same same asked apart]

def naming : Wire.Response :=
  ⟨200, [123, 34, 115, 117, 99, 99, 101, 115, 115, 34, 58, 116, 114, 117, 101, 44, 34, 100, 97, 116, 97,
    34, 58, 123, 34, 97, 97, 34, 58, 123, 125, 44, 34, 98, 98, 34, 58, 123, 125, 125, 125], 1000⟩

def spoiling : Wire.Response :=
  ⟨200, [123, 34, 115, 117, 99, 99, 101, 115, 115, 34, 58, 116, 114, 117, 101, 44, 34, 100, 97, 116, 97,
    34, 58, 123, 34, 97, 97, 34, 58, 123, 125, 44, 34, 98, 98, 34, 58, 123, 34, 102, 105, 108, 101, 115,
    34, 58, 49, 125, 125, 125], 1000⟩

def namingTwo (entry : Value) : Value :=
  .obj [("success", .bool true), ("data", .obj [("aa", .obj []), ("bb", entry)])]

def atTorbox : Account := ⟨.torbox, .str "key", .null, .null, .float (.ofNat 0), .null⟩

theorem create_atTorbox :
    create .torbox ⟨.str "key", .null, .int 0, .float (.ofNat 0), .null⟩ = .ok atTorbox := rfl

theorem lists_namingTwo (entry : Value) : Provider.torbox.Lists (namingTwo entry) := ⟨rfl, _, rfl⟩

theorem answeredBy_atTorbox {r : Wire.Response} {answer : Value} (success : r.isSuccess = true)
    (document : r.document = .ok answer) :
    atTorbox.AnsweredBy ⟨false, [], .answered r⟩ ["AA", "bb"] answer := by
  have regular : atTorbox.Regular := opened_regular .torbox (.str "key") .null 0 (.ofNat 0) .null
  have header := checkHeader_authorization (a := atTorbox) rfl (Wire.forall_of_all (by decide))
  have reaches : atTorbox.Reaches ⟨false, [], .answered r⟩ := ⟨rfl, header, Nat.zero_le _⟩
  exact answeredBy_always regular rfl reaches (by decide) (by decide) success document

theorem unspoiled_naming : ¬ Provider.torbox.Spoiled ["aa", "bb"] (namingTwo (.obj [])) := by
  rintro ⟨h, asked, entry, belongs, bad⟩
  rcases List.mem_cons.mp asked with rfl | later
  · cases belongs
    exact bad
  · cases List.mem_singleton.mp later
    cases belongs
    exact bad

theorem check_entries_of_two :
    ∃ results,
      ((atTorbox.check (.arr (["AA", "bb"].map .str))).run ⟨false, [], .answered naming⟩).result =
        .ok results ∧
      results.map (·.1) = ["aa", "bb"] ∧
      ∃ status, results.lookup "aa" = some status ∧ status.cached = true := by
  obtain ⟨u, results, unique, result, keys, -, unspoiled, -⟩ :=
    check_entries create_atTorbox (answeredBy_atTorbox (r := naming) rfl rfl)
      (lists_namingTwo (.obj []))
  have asked : Hash.unique (.arr (["AA", "bb"].map .str)) = .ok ["aa", "bb"] := rfl
  rw [asked] at unique
  cases unique
  obtain ⟨status, found, cached⟩ := unspoiled unspoiled_naming "aa" List.mem_cons_self
  refine ⟨results, result, keys, status, found, cached.mpr ?_⟩
  exact ⟨_, ("aa", .obj []), rfl, List.mem_cons_self, rfl⟩

/-- A number for the files of one torrent takes the status of another away, though both are named. -/
theorem check_entries_not_apart :
    Provider.torbox.Lists (namingTwo (.obj [])) ∧
      Provider.torbox.Lists (namingTwo (.obj [("files", .int 1)])) ∧
      Provider.torbox.SameBut ["aa", "bb"] "bb" (namingTwo (.obj []))
        (namingTwo (.obj [("files", .int 1)])) ∧
      Provider.torbox.Says ["aa", "bb"] (namingTwo (.obj [("files", .int 1)])) "aa" ∧
      ∃ c c' results results',
        atTorbox.AnsweredBy c ["AA", "bb"] (namingTwo (.obj [])) ∧
        atTorbox.AnsweredBy c' ["AA", "bb"] (namingTwo (.obj [("files", .int 1)])) ∧
        ((atTorbox.check (.arr (["AA", "bb"].map .str))).run c).result = .ok results ∧
        ((atTorbox.check (.arr (["AA", "bb"].map .str))).run c').result = .ok results' ∧
        (results.lookup "aa").map (·.cached) = some true ∧
        (results'.lookup "aa").map (·.cached) = some false := by
  have named : atTorbox.AnsweredBy _ _ (namingTwo (.obj [])) :=
    answeredBy_atTorbox (r := naming) rfl rfl
  have spoiled : atTorbox.AnsweredBy _ _ (namingTwo (.obj [("files", .int 1)])) :=
    answeredBy_atTorbox (r := spoiling) rfl rfl
  have lists := lists_namingTwo (.obj [])
  have lists' := lists_namingTwo (.obj [("files", .int 1)])
  have number : Provider.torbox.Spoiled ["aa", "bb"] (namingTwo (.obj [("files", .int 1)])) :=
    ⟨"bb", by decide, _, rfl, (by decide : (1 : Int) ≠ 0)⟩
  refine ⟨lists, lists', ⟨_, _, rfl, rfl, rfl⟩, ⟨_, ("aa", .obj []), rfl, List.mem_cons_self, rfl⟩,
    _, _, _, _, named, spoiled, (check_listed create_atTorbox named lists).2 unspoiled_naming,
    (check_listed create_atTorbox spoiled lists').1 number, rfl, rfl⟩

end Account
end DebridCache
