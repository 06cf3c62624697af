import DebridCache.Proofs.Availability.Unlisted

/-!
Torbox's answers in full. Any key that is a hash in lowercase names the hash, and of several such keys the
last one counts. Keys that name no hash of the check have no part in its results.
-/

namespace DebridCache

open Availability (entryOf?)

namespace Availability

def Names (h : String) (m : String × Value) : Prop := String.ofList (Text.lower m.1.toList) = h

instance (h : String) : DecidablePred (Names h) :=
  fun m => inferInstanceAs (Decidable (String.ofList (Text.lower m.1.toList) = h))

def LastNamed (members : List (String × Value)) (h : String) (entry : Value) : Prop :=
  ∃ before key after, members = before ++ (key, entry) :: after ∧ Names h (key, entry) ∧
    ∀ m ∈ after, ¬ Names h m

def namesOne (hashes : List String) (m : String × Value) : Bool :=
  String.ofList (Text.lower m.1.toList) ∈ hashes

variable {members : List (String × Value)} {h : String}

theorem entryOf?_eq_some_iff {entry : Value} :
    entryOf? members h = some entry ↔ LastNamed members h entry := by
  unfold entryOf?
  rw [Option.map_eq_some_iff]
  constructor
  · rintro ⟨⟨key, entry⟩, found, rfl⟩
    obtain ⟨named, after, before, split, others⟩ := List.find?_eq_some_iff_append.mp found
    refine ⟨before.reverse, key, after.reverse, ?_, of_decide_eq_true named, ?_⟩
    · simpa using congrArg List.reverse split
    · intro m member
      simpa [Names] using others m (List.mem_reverse.mp member)
  · rintro ⟨before, key, after, rfl, named, others⟩
    refine ⟨(key, entry), List.find?_eq_some_iff_append.mpr ?_, rfl⟩
    refine ⟨decide_eq_true named, after.reverse, before.reverse, by simp, ?_⟩
    intro m member
    simpa [Names] using others m (List.mem_reverse.mp member)

theorem entryOf?_eq_none_iff : entryOf? members h = none ↔ ∀ m ∈ members, ¬ Names h m := by
  rw [← Option.not_isSome_iff_eq_none, Account.entryOf?_isSome]
  simp [Names]

theorem entryOf?_filter {hashes : List String} (asked : h ∈ hashes) :
    entryOf? (members.filter (namesOne hashes)) h = entryOf? members h := by
  unfold entryOf?
  rw [← List.filter_reverse, List.find?_filter]
  congr 2
  funext m
  by_cases named : String.ofList (Text.lower m.1.toList) = h
  · simp [namesOne, named, asked]
  · simp [named]

end Availability

namespace Provider

theorem entryIn?_torbox {answer : Value} {members : List (String × Value)}
    (data : answer.memberOrNull "data" = .obj members) (hashes : List String) (h : String) :
    torbox.entryIn? hashes answer h = entryOf? members h := by
  rw [entryIn?, data]

theorem spoiled_torbox {answer : Value} {members : List (String × Value)}
    (data : answer.memberOrNull "data" = .obj members) (hashes : List String) :
    torbox.Spoiled hashes answer ↔ ∃ h ∈ hashes, ∃ entry, Availability.LastNamed members h entry ∧
      (entry.memberOrNull "files").Unlistable := by
  simp only [Spoiled, entryIn?_torbox data, Availability.entryOf?_eq_some_iff]

end Provider

namespace Account

open Availability (Names LastNamed namesOne)

/-- Torbox's answers are read in one way. One that is no success or has no object of entries leaves every
hash uncached, and so does one in which the entry of some hash has files that cannot be listed. In any
other a hash is cached if and only if it is named, with the files of the last entry under its name; and
entries under no name asked for make no difference. -/
theorem check_named {credential timeout agent : Value} {size : Int} {delay : Binary64} {a : Account}
    (created : create .torbox ⟨credential, timeout, .int size, .float delay, agent⟩ = .ok a)
    {hashes : List String} {c : Client} {answer : Value} (answered : a.AnsweredBy c hashes answer) :
    ∃ u results, Hash.unique (.arr (hashes.map .str)) = .ok u ∧
      ((a.check (.arr (hashes.map .str))).run c).result = .ok results ∧ results.map (·.1) = u ∧
      (¬ Provider.torbox.Lists answer → ∀ h ∈ u, results.lookup h = some (.uncached "Torbox")) ∧
      ∀ members, Provider.torbox.Lists answer → answer.memberOrNull "data" = .obj members →
        ((∃ h ∈ u, ∃ entry, LastNamed members h entry ∧ (entry.memberOrNull "files").Unlistable) →
          ∀ h ∈ u, results.lookup h = some (.uncached "Torbox")) ∧
        ((¬ ∃ h ∈ u, ∃ entry, LastNamed members h entry ∧ (entry.memberOrNull "files").Unlistable) →
          ∀ h ∈ u,
            (∀ entry, LastNamed members h entry → results.lookup h =
              some ⟨true, "Torbox", (entry.memberOrNull "files").listing⟩) ∧
            ((∀ m ∈ members, ¬ Names h m) → results.lookup h = some (.uncached "Torbox"))) ∧
        ∀ c' other members', a.AnsweredBy c' hashes other → Provider.torbox.Lists other →
          other.memberOrNull "data" = .obj members' →
          members'.filter (namesOne u) = members.filter (namesOne u) →
          ((a.check (.arr (hashes.map .str))).run c').result = .ok results := by
  obtain ⟨status, result, uncached, own⟩ := check_read created (by decide) answered
  refine ⟨_, _, Hash.unique_texts hashes, result, keys_each _ status, ?_, ?_⟩
  · intro unlisted h asked
    rw [lookup_map_of_mem status asked, uncached (.inl unlisted)]
    rfl
  · intro members lists data
    rw [← Provider.spoiled_torbox data]
    refine ⟨?_, ?_, ?_⟩
    · intro spoiled h asked
      rw [lookup_map_of_mem status asked, uncached (.inr spoiled)]
      rfl
    · intro unspoiled h asked
      have told := own lists unspoiled h
      rw [Provider.entryIn?_torbox data] at told
      rw [lookup_map_of_mem status asked, told]
      constructor
      · intro entry named
        have listable : ¬ (entry.memberOrNull "files").Unlistable :=
          fun bad => unspoiled ((Provider.spoiled_torbox data _).mpr ⟨h, asked, entry, named, bad⟩)
        rw [Availability.entryOf?_eq_some_iff.mpr named, Provider.statusOf_listable listable]
        rfl
      · intro unnamed
        rw [Availability.entryOf?_eq_none_iff.mpr unnamed]
        rfl
    · intro c' other members' answered' lists' data' same
      rw [← result]
      refine check_congr created lists lists' answered answered' fun h asked => ?_
      rw [Provider.entryIn?_torbox data, Provider.entryIn?_torbox data',
        ← Availability.entryOf?_filter asked, same, Availability.entryOf?_filter asked]

/-- One torrent is named twice, one not at all, and the one whose files cannot be listed is not asked
about. -/
def namedTwice : List (String × Value) :=
  [("aa", .int 2), ("AA", .obj [("files", .str "xy")]), ("cc", .obj [("files", .int 7)])]

def answerTwice : Wire.Response :=
  ⟨200, [123, 34, 115, 117, 99, 99, 101, 115, 115, 34, 58, 49, 44, 34, 100, 97, 116, 97, 34, 58, 123,
    34, 97, 97, 34, 58, 50, 44, 34, 65, 65, 34, 58, 123, 34, 102, 105, 108, 101, 115, 34, 58, 34,
    120, 121, 34, 125, 44, 34, 99, 99, 34, 58, 123, 34, 102, 105, 108, 101, 115, 34, 58, 55, 125,
    125, 125], 1000⟩

theorem check_named_of_twice :
    ∃ results,
      ((atTorbox.check (.arr (["AA", "bb"].map .str))).run ⟨false, [], .answered answerTwice⟩).result =
        .ok results ∧
      results.map (·.1) = ["aa", "bb"] ∧
      results.lookup "aa" = some ⟨true, "Torbox", [.str "x", .str "y"]⟩ ∧
      results.lookup "bb" = some (.uncached "Torbox") := by
  have answered : atTorbox.AnsweredBy ⟨false, [], .answered answerTwice⟩ ["AA", "bb"]
      (.obj [("success", .int 1), ("data", .obj namedTwice)]) := answeredBy_atTorbox rfl rfl
  have last : LastNamed namedTwice "aa" (.obj [("files", .str "xy")]) :=
    Availability.entryOf?_eq_some_iff.mp rfl
  have absent : ∀ m ∈ namedTwice, ¬ Names "bb" m := by decide
  have listable : ¬ ∃ h ∈ ["aa", "bb"], ∃ entry, LastNamed namedTwice h entry ∧
      (entry.memberOrNull "files").Unlistable := by
    rintro ⟨h, asked, entry, named, bad⟩
    rw [← Availability.entryOf?_eq_some_iff] at named
    rcases List.mem_cons.mp asked with rfl | later
    · cases named
      exact bad
    · cases List.mem_singleton.mp later
      cases named
  obtain ⟨u, results, unique, result, keys, -, read⟩ := check_named create_atTorbox answered
  have asked : Hash.unique (.arr (["AA", "bb"].map .str)) = .ok ["aa", "bb"] := rfl
  rw [asked] at unique
  cases unique
  obtain ⟨-, unspoiled, -⟩ := read namedTwice ⟨rfl, _, rfl⟩ rfl
  have own := unspoiled listable
  exact ⟨results, result, keys, (own "aa" List.mem_cons_self).1 _ last,
    (own "bb" (List.mem_cons_of_mem _ (List.mem_singleton_self _))).2 absent⟩

end Account
end DebridCache
