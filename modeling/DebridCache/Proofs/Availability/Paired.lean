import DebridCache.Proofs.Availability.Unlisted

/-!
AllDebrid's answers in full. Its entries have no names that count: each belongs to the hash at its own
place among the hashes of the request, also where an entry before it is no object.
-/

namespace DebridCache

def Value.withoutHash : Value → Value
  | .obj fields => .obj (fields.filter fun m => m.1 != "hash")
  | v => v

theorem Value.memberOrNull_withoutHash {key : String} (other : key ≠ "hash") (v : Value) :
    v.withoutHash.memberOrNull key = v.memberOrNull key := by
  cases v with
  | obj fields => exact congrArg (fun found => found.getD Value.null) (lookup_filter_ne other fields)
  | _ => rfl

namespace Provider

def Pairs (answer : Value) (entries : List Value) : Prop :=
  answer.memberOrNull "status" = .str "success" ∧
    (answer.memberOrNull "data").memberOrNull "magnets" = .arr entries

/-- Of the first so many entries one is an object whose files cannot be listed. -/
def SpoiledAmong (entries : List Value) (count : Nat) : Prop :=
  ∃ i fields, i < count ∧ entries[i]? = some (.obj fields) ∧
    ((Value.obj fields).memberOrNull "files").Unlistable

theorem Pairs.lists {answer : Value} {entries : List Value} (pairs : Pairs answer entries) :
    allDebrid.Lists answer := ⟨pairs.1, entries, pairs.2⟩

variable {answer : Value} {entries : List Value} {hashes : List String}

theorem Pairs.entryIn? (pairs : Pairs answer entries) (distinct : hashes.Nodup) {i : Nat} {h : String}
    (place : hashes[i]? = some h) : allDebrid.entryIn? hashes answer h = entries[i]? := by
  obtain ⟨inside, rfl⟩ := List.getElem?_eq_some_iff.mp place
  rw [Provider.entryIn?, pairs.2, distinct.idxOf_getElem]

theorem entryIn?_of_unpaired (unpaired : ∀ entries, Pairs answer entries → entries = [])
    (lists : allDebrid.Lists answer) (hashes : List String) (h : String) :
    allDebrid.entryIn? hashes answer h = none := by
  obtain ⟨entries, magnets⟩ := lists.2
  cases unpaired entries ⟨lists.1, magnets⟩
  rw [entryIn?, magnets]
  rfl

theorem Pairs.spoiled_iff (pairs : Pairs answer entries) (distinct : hashes.Nodup) :
    allDebrid.Spoiled hashes answer ↔ SpoiledAmong entries hashes.length := by
  constructor
  · rintro ⟨h, asked, entry, belongs, bad⟩
    obtain ⟨i, place⟩ := List.mem_iff_getElem?.mp asked
    rw [pairs.entryIn? distinct place] at belongs
    cases entry with
    | obj fields => exact ⟨i, fields, (List.getElem?_eq_some_iff.mp place).1, belongs, bad⟩
    | _ => cases bad
  · rintro ⟨i, fields, inside, entry, bad⟩
    refine ⟨hashes[i], List.getElem_mem inside, _, ?_, bad⟩
    rw [pairs.entryIn? distinct (List.getElem?_eq_getElem inside), entry]

theorem gist_withoutHash (entry : Value) : allDebrid.gist entry.withoutHash = allDebrid.gist entry := by
  unfold gist marks
  rw [Value.memberOrNull_withoutHash (by decide), Value.memberOrNull_withoutHash (by decide)]

theorem statusOf_noObject {item : Option Value} (noObject : ∀ fields, item ≠ some (.obj fields)) :
    allDebrid.statusOf item = .uncached "AllDebrid" := by
  cases item with
  | none => rfl
  | some entry =>
      cases entry with
      | obj fields => exact absurd rfl (noObject fields)
      | _ => rfl

theorem gist_withoutHash_of_take {others : List Value} {count : Nat}
    (same : (others.take count).map Value.withoutHash = (entries.take count).map Value.withoutHash)
    {i : Nat} (inside : i < count) :
    others[i]?.map allDebrid.gist = entries[i]?.map allDebrid.gist := by
  have bare : others[i]?.map Value.withoutHash = entries[i]?.map Value.withoutHash := by
    rw [← List.getElem?_take_of_lt inside, ← List.getElem?_map, same, List.getElem?_map,
      List.getElem?_take_of_lt inside]
  have read := congrArg (Option.map allDebrid.gist) bare
  simpa only [Option.map_map, Function.comp_def, gist_withoutHash] using read

end Provider

namespace Account

open Provider (Pairs SpoiledAmong)

variable {credential timeout agent : Value} {size : Int} {delay : Binary64} {a : Account}
  {hashes : List String} {c : Client} {answer : Value}

theorem prepared_of_answered {p : Provider}
    (created : create p ⟨credential, timeout, .int size, .float delay, agent⟩ = .ok a)
    (other : p ≠ .realDebrid) (answered : a.AnsweredBy c hashes answer) :
    ∀ e ∈ (a.check (.arr (hashes.map .str))).dialogue c,
      (a.question (Hash.asked hashes)).prepare = .ok e.1 := by
  obtain ⟨rfl, regular, unlimited⟩ := unlimited_of_created created other
  intro e said
  obtain ⟨b, batch, prepared⟩ := question_of_dialogue regular answered.met said
  by_cases none : Hash.asked hashes = []
  · rw [none, batches, Batch.chunks_nil] at batch
    cases batch
  · rw [batches_whole unlimited none] at batch
    cases List.mem_singleton.mp batch
    exact prepared

theorem body_of_prepared (provider : a.provider = .allDebrid) {batch : List String} {sent : Wire.Sent}
    (prepared : (a.question batch).prepare = .ok sent) :
    sent.body = String.ofList (Wire.encodeFields [("magnets[]", .str (magnetList batch))]) := by
  rw [(Wire.parts_of_prepare prepared).body, question, provider]
  rfl

/-- AllDebrid's answers are read in one way. One that is no success or has no list of entries leaves every
hash uncached, and so does one in which an entry at the place of a hash has files that cannot be listed.
In any other a hash is cached if and only if the entry at its place is an object whose `instant` is true;
it has that object's files, cached or not, and is uncached without any where there is no such object. What
hash an entry gives itself, and entries past the last hash, make no difference. -/
theorem check_paired
    (created : create .allDebrid ⟨credential, timeout, .int size, .float delay, agent⟩ = .ok a)
    (answered : a.AnsweredBy c hashes answer) :
    ∃ u results, Hash.unique (.arr (hashes.map .str)) = .ok u ∧
      (∀ e ∈ (a.check (.arr (hashes.map .str))).dialogue c,
        e.1.body = String.ofList (Wire.encodeFields [("magnets[]", .str (magnetList u))])) ∧
      ((a.check (.arr (hashes.map .str))).run c).result = .ok results ∧ results.map (·.1) = u ∧
      ((∀ entries, Pairs answer entries → entries = []) →
        ∀ h ∈ u, results.lookup h = some (.uncached "AllDebrid")) ∧
      ∀ entries, Pairs answer entries →
        (SpoiledAmong entries u.length → ∀ h ∈ u, results.lookup h = some (.uncached "AllDebrid")) ∧
        (¬ SpoiledAmong entries u.length → ∀ (i : Nat) h, u[i]? = some h →
          (∀ fields, entries[i]? = some (.obj fields) → ∃ status, results.lookup h = some status ∧
            (status.cached = true ↔ fields.lookup "instant" = some (.bool true)) ∧
            status.service = "AllDebrid" ∧
            status.files = ((Value.obj fields).memberOrNull "files").listing) ∧
          ((∀ fields, entries[i]? ≠ some (.obj fields)) →
            results.lookup h = some (.uncached "AllDebrid"))) ∧
        ∀ c' other entries', a.AnsweredBy c' hashes other → Pairs other entries' →
          (entries'.take u.length).map Value.withoutHash =
            (entries.take u.length).map Value.withoutHash →
          ((a.check (.arr (hashes.map .str))).run c').result = .ok results := by
  obtain ⟨status, result, uncached, own⟩ := check_read created (by decide) answered
  have provider := (unlimited_of_created created (by decide)).1
  have distinct := Hash.nodup_asked hashes
  refine ⟨_, _, Hash.unique_texts hashes, ?_, result, keys_each _ status, ?_, ?_⟩
  · intro e said
    exact body_of_prepared provider (prepared_of_answered created (by decide) answered e said)
  · intro unpaired h asked
    rw [lookup_map_of_mem status asked]
    refine congrArg some ?_
    by_cases lists : Provider.allDebrid.Lists answer
    · by_cases spoiled : Provider.allDebrid.Spoiled (Hash.asked hashes) answer
      · exact uncached (.inr spoiled) h
      · rw [own lists spoiled, Provider.entryIn?_of_unpaired unpaired lists]
        rfl
    · exact uncached (.inl lists) h
  · intro entries pairs
    rw [← pairs.spoiled_iff distinct]
    refine ⟨?_, ?_, ?_⟩
    · intro spoiled h asked
      rw [lookup_map_of_mem status asked, uncached (.inr spoiled)]
      rfl
    · intro unspoiled i h place
      have told := own pairs.lists unspoiled h
      rw [pairs.entryIn? distinct place] at told
      rw [lookup_map_of_mem status (List.mem_of_getElem? place), told]
      constructor
      · intro fields entry
        have listable : ¬ ((Value.obj fields).memberOrNull "files").Unlistable := fun bad =>
          unspoiled ((pairs.spoiled_iff distinct).mpr
            ⟨i, fields, (List.getElem?_eq_some_iff.mp place).1, entry, bad⟩)
        rw [entry, Provider.statusOf_listable listable]
        exact ⟨_, rfl, isInstant_iff, rfl, rfl⟩
      · intro noObject
        exact congrArg some (Provider.statusOf_noObject noObject)
    · intro c' other entries' answered' pairs' same
      rw [← result]
      refine check_congr created pairs.lists pairs'.lists answered answered' fun h asked => ?_
      obtain ⟨i, place⟩ := List.mem_iff_getElem?.mp asked
      rw [pairs.entryIn? distinct place, pairs'.entryIn? distinct place]
      exact Provider.gist_withoutHash_of_take same (List.getElem?_eq_some_iff.mp place).1

/-- The first entry gives itself the hash of the second, which is no object, and there is no third. -/
def twoEntries : List Value :=
  [.obj [("instant", .bool true), ("files", .str "xy"), ("hash", .str "bb")], .int 7]

def answerTwo : Wire.Response :=
  ⟨200, [123, 34, 115, 116, 97, 116, 117, 115, 34, 58, 34, 115, 117, 99, 99, 101, 115, 115, 34, 44, 34,
    100, 97, 116, 97, 34, 58, 123, 34, 109, 97, 103, 110, 101, 116, 115, 34, 58, 91, 123, 34, 105,
    110, 115, 116, 97, 110, 116, 34, 58, 116, 114, 117, 101, 44, 34, 102, 105, 108, 101, 115, 34,
    58, 34, 120, 121, 34, 44, 34, 104, 97, 115, 104, 34, 58, 34, 98, 98, 34, 125, 44, 55, 93, 125,
    125], 1000⟩

def atAllDebrid : Account := ⟨.allDebrid, .str "key", .null, .null, .float (.ofNat 0), .str "debridhub"⟩

theorem answeredBy_atAllDebrid : atAllDebrid.AnsweredBy ⟨false, [], .answered answerTwo⟩
    ["AA", "bb", "aa", "cc"]
    (.obj [("status", .str "success"), ("data", .obj [("magnets", .arr twoEntries)])]) := by
  have regular : atAllDebrid.Regular :=
    opened_regular .allDebrid (.str "key") .null 0 (.ofNat 0) (.str "debridhub")
  have header := checkHeader_authorization (a := atAllDebrid) rfl (Wire.forall_of_all (by decide))
  have reaches : atAllDebrid.Reaches ⟨false, [], .answered answerTwo⟩ := ⟨rfl, header, by decide⟩
  exact answeredBy_always regular rfl reaches (by decide) (by decide) rfl rfl

theorem check_paired_of_two :
    ∃ results,
      ((atAllDebrid.check (.arr (["AA", "bb", "aa", "cc"].map .str))).run
        ⟨false, [], .answered answerTwo⟩).result = .ok results ∧
      results.map (·.1) = ["aa", "bb", "cc"] ∧
      (∃ status, results.lookup "aa" = some status ∧ status.cached = true ∧
        status.files = [.str "x", .str "y"]) ∧
      results.lookup "bb" = some (.uncached "AllDebrid") ∧
      results.lookup "cc" = some (.uncached "AllDebrid") := by
  have created : create .allDebrid ⟨.str "key", .null, .int 0, .float (.ofNat 0), .str "debridhub"⟩ =
      .ok atAllDebrid := rfl
  have listable : ¬ SpoiledAmong twoEntries 3 := by
    rintro ⟨i, fields, -, entry, bad⟩
    match i with
    | 0 =>
        cases entry
        exact bad
    | 1 => cases entry
    | i + 2 => cases entry
  obtain ⟨u, results, unique, -, result, keys, -, read⟩ := check_paired created answeredBy_atAllDebrid
  have asked : Hash.unique (.arr (["AA", "bb", "aa", "cc"].map .str)) = .ok ["aa", "bb", "cc"] := rfl
  rw [asked] at unique
  cases unique
  have own := (read twoEntries ⟨rfl, rfl⟩).2.1 listable
  obtain ⟨status, found, cached, -, files⟩ := (own 0 "aa" rfl).1 _ rfl
  exact ⟨results, result, keys, ⟨status, found, cached.mpr rfl, files⟩,
    (own 1 "bb" rfl).2 nofun, (own 2 "cc" rfl).2 nofun⟩

end Account
end DebridCache
