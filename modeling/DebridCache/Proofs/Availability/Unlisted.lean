import DebridCache.Proofs.Availability.Spoiling

/-!
Answers that list nothing. Torbox and AllDebrid are understood in one form each; whatever else a
successful response holds, it is refused or it cannot be read, or what is read of it is that no hash is
cached. So every hash of the check stays uncached.
-/

namespace DebridCache

open Wire (Outcome)
open Availability (filesOf)

theorem filesOf_texts {v : Value} (other : ∀ items, v ≠ .arr items) {files : List Value}
    (listed : filesOf v = .ok files) : ∀ file ∈ files, ∃ s, file = .str s := by
  unfold filesOf at listed
  split at listed
  · cases v with
    | str s =>
        cases listed
        intro file member
        obtain ⟨c, -, rfl⟩ := List.mem_map.mp member
        exact ⟨_, rfl⟩
    | arr items => exact absurd rfl (other items)
    | obj members =>
        cases listed
        intro file member
        obtain ⟨m, -, rfl⟩ := List.mem_map.mp member
        exact ⟨_, rfl⟩
    | _ => cases listed
  · cases listed
    intro file member
    cases member

namespace Availability

theorem readMembers_unlisted {service : String} {batch : List String} {answer : Value}
    (unlisted : ¬ Provider.torbox.Lists answer) (found : ResultMap) :
    readMembers service batch answer ≠ .ok (.found found) := by
  intro read
  obtain ⟨success, member, read⟩ := ok_of_bind_ok read
  split at read
  · rename_i members truthy data
    rw [← Value.memberOrNull_of_member member] at truthy
    exact unlisted ⟨truthy, members, data⟩
  · cases read

/-- Where the magnets are no list, what is gone through in their place gives no hash a status. -/
theorem readMagnets_unlisted {service : String} {batch : List String} {answer : Value}
    (unlisted : ¬ Provider.allDebrid.Lists answer) {found : ResultMap}
    (read : readMagnets service batch answer = .ok (.found found)) :
    ∀ row ∈ found, row.2 = .uncached service := by
  rw [readMagnets_eq] at read
  obtain ⟨status, member, read⟩ := ok_of_bind_ok read
  split at read
  · obtain ⟨magnets, inside, read⟩ := ok_of_bind_ok read
    obtain ⟨statuses, paired, read⟩ := ok_of_bind_ok read
    cases read
    obtain ⟨entries, listed, each⟩ := ok_of_bind_ok paired
    have other (items : List Value) : magnets ≠ .arr items := by
      rintro rfl
      unfold magnetsOf at inside
      split at inside
      · exact unlisted ⟨Value.memberOrNull_of_member member, items, Value.memberOrNull_of_member inside⟩
      · cases inside
    intro row inFound
    obtain ⟨⟨h, entry⟩, inPairs, single⟩ := mem_of_mapM_ok each inFound
    obtain ⟨s, rfl⟩ := filesOf_texts other listed entry (List.of_mem_zip inPairs).2
    cases single
    rfl
  · cases read

/-- An answer that does not list entries gives no hash a status but uncached. -/
theorem read_unlisted {p : Provider} (other : p ≠ .realDebrid) {batch : List String} {answer : Value}
    (unlisted : ¬ p.Lists answer) {found : ResultMap} (read : read p batch answer = .ok (.found found)) :
    ∀ row ∈ found, row.2 = .uncached p.displayName := by
  cases p with
  | realDebrid => exact absurd rfl other
  | torbox => exact absurd read (readMembers_unlisted unlisted found)
  | allDebrid => exact readMagnets_unlisted unlisted read

end Availability

namespace Provider

/-- What is read off an entry: whether it marks its hash, and its files. -/
def gist (p : Provider) (entry : Value) : Bool × Value := (p.marks entry, entry.memberOrNull "files")

theorem unlistable_gist (p : Provider) (item : Option Value) :
    (∃ entry, item = some entry ∧ (entry.memberOrNull "files").Unlistable) ↔
      ∃ read, item.map p.gist = some read ∧ read.2.Unlistable := by
  cases item <;> simp [gist]

theorem statusOf_gist (p : Provider) (item : Option Value) :
    p.statusOf item = ((item.map p.gist).map fun read =>
      ⟨read.1, p.displayName, (filesOf read.2).toOption.getD []⟩).getD (.uncached p.displayName) := by
  cases item <;> rfl

theorem statusOf_listable {p : Provider} {entry : Value}
    (good : ¬ (entry.memberOrNull "files").Unlistable) :
    p.statusOf (some entry) = ⟨p.marks entry, p.displayName, (entry.memberOrNull "files").listing⟩ := by
  rw [statusOf, filesOf_eq_listing good]
  rfl

end Provider

namespace Account

theorem statuses_of_uncached {a : Account} {batch : List String} {o : Outcome}
    (none : ∀ row ∈ a.found batch o, row.2 = .uncached a.name) :
    a.statuses batch o = batch.map fun h => (h, .uncached a.name) := by
  rw [statuses, ResultMap.overlay, List.map_map]
  refine List.map_congr_left fun h _ => congrArg (Prod.mk h) ?_
  show ((a.found batch o).lookup h).getD (.uncached a.name) = .uncached a.name
  cases held : (a.found batch o).lookup h with
  | none => rfl
  | some status =>
      obtain ⟨before, after, split, -⟩ := List.lookup_eq_some_iff.mp held
      refine none (h, status) ?_
      rw [split]
      exact List.mem_append_right before List.mem_cons_self

theorem statuses_unlisted {a : Account} (other : a.provider ≠ .realDebrid) (batch : List String)
    {r : Wire.Response} {answer : Value} (success : r.isSuccess = true)
    (document : r.document = .ok answer) (unlisted : ¬ a.provider.Lists answer) :
    a.statuses batch (.answered r) = batch.map fun h => (h, .uncached a.name) := by
  apply statuses_of_uncached
  rw [found, told_answered batch success document]
  cases read : Availability.read a.provider batch answer with
  | error f =>
      intro row member
      cases member
  | ok reading =>
      cases reading with
      | refused reason =>
          intro row member
          cases member
      | found statuses => exact Availability.read_unlisted other unlisted read

variable {p : Provider} {credential timeout agent : Value} {size : Int} {delay : Binary64} {a : Account}
  {hashes : List String} {c c' : Client} {answer answer' : Value}

/-- A check is read off one answer: each hash has the status of its own entry, if the answer lists entries
and none of them has files that cannot be listed. Else all are uncached. -/
theorem check_read (created : create p ⟨credential, timeout, .int size, .float delay, agent⟩ = .ok a)
    (other : p ≠ .realDebrid) (answered : a.AnsweredBy c hashes answer) :
    ∃ status : String → CacheStatus,
      ((a.check (.arr (hashes.map .str))).run c).result =
        .ok ((Hash.asked hashes).map fun h => (h, status h)) ∧
      (¬ p.Lists answer ∨ p.Spoiled (Hash.asked hashes) answer →
        ∀ h, status h = .uncached p.displayName) ∧
      (p.Lists answer → ¬ p.Spoiled (Hash.asked hashes) answer →
        ∀ h, status h = p.statusOf (p.entryIn? (Hash.asked hashes) answer h)) := by
  by_cases lists : p.Lists answer
  · obtain ⟨spoiling, sparing⟩ := check_listed created answered lists
    by_cases spoiled : p.Spoiled (Hash.asked hashes) answer
    · exact ⟨_, spoiling spoiled, fun _ _ => rfl, fun _ unspoiled => absurd spoiled unspoiled⟩
    · refine ⟨_, sparing spoiled, ?_, fun _ _ _ => rfl⟩
      rintro (unlisted | bad)
      · exact absurd lists unlisted
      · exact absurd bad spoiled
  · obtain ⟨rfl, regular, unlimited⟩ := unlimited_of_created created other
    obtain ⟨r, success, document, result⟩ := check_answered regular unlimited answered
    rw [statuses_unlisted other _ success document lists] at result
    exact ⟨_, result, fun _ _ => rfl, fun lists' => absurd lists' lists⟩

/-- Answers in which the same is read off the entry of every hash asked for give the same results. -/
theorem check_congr (created : create p ⟨credential, timeout, .int size, .float delay, agent⟩ = .ok a)
    (lists : p.Lists answer) (lists' : p.Lists answer') (answered : a.AnsweredBy c hashes answer)
    (answered' : a.AnsweredBy c' hashes answer')
    (same : ∀ h ∈ Hash.asked hashes, (p.entryIn? (Hash.asked hashes) answer' h).map p.gist =
      (p.entryIn? (Hash.asked hashes) answer h).map p.gist) :
    ((a.check (.arr (hashes.map .str))).run c').result =
      ((a.check (.arr (hashes.map .str))).run c).result := by
  have alike : p.Spoiled (Hash.asked hashes) answer' ↔ p.Spoiled (Hash.asked hashes) answer := by
    refine exists_congr fun h => and_congr_right fun asked => ?_
    rw [Provider.unlistable_gist, Provider.unlistable_gist, same h asked]
  obtain ⟨spoiling, sparing⟩ := check_listed created answered lists
  obtain ⟨spoiling', sparing'⟩ := check_listed created answered' lists'
  by_cases spoiled : p.Spoiled (Hash.asked hashes) answer
  · rw [spoiling spoiled, spoiling' (alike.mpr spoiled)]
  · rw [sparing spoiled, sparing' fun bad => spoiled (alike.mp bad)]
    refine congrArg Except.ok (List.map_congr_left fun h asked => ?_)
    rw [Provider.statusOf_gist, same h asked, ← Provider.statusOf_gist]

end Account
end DebridCache
