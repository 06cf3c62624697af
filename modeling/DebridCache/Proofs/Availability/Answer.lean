import DebridCache.Availability.Answer
import DebridCache.Proofs.Fault

/-!
What a reading of an answer can hold, whatever the answer: statuses of the batch's own hashes, each in
the name of the provider that was asked. A reading may fail, but never as if the call were withdrawn.
-/

namespace DebridCache

theorem Value.member_failsOnly (key : String) (v : Value) :
    FailsOnly (· ≠ .cancelled) (v.member key) := by
  cases v with
  | obj members => exact .ok _
  | _ => exact .error nofun

theorem Value.elements_failsOnly (v : Value) : FailsOnly (· ≠ .cancelled) v.elements := by
  cases v with
  | str s => exact .ok _
  | arr items => exact .ok _
  | obj members => exact .ok _
  | _ => exact .error nofun

theorem Value.memberOrNull_of_member {key : String} {v w : Value} (found : v.member key = .ok w) :
    v.memberOrNull key = w := by
  cases v with
  | obj members => exact Except.ok.inj found
  | _ => cases found

namespace Availability

theorem lookup_of_memberOrNull {key : String} {v w : Value} (present : w ≠ .null)
    (h : v.memberOrNull key = w) :
    ∃ members, v = .obj members ∧ members.lookup key = some w := by
  cases v with
  | obj members =>
      refine ⟨members, rfl, ?_⟩
      rw [Value.memberOrNull] at h
      cases held : members.lookup key with
      | none =>
          rw [held] at h
          exact absurd h.symm present
      | some u =>
          rw [held] at h
          exact congrArg some h
  | _ => exact absurd h.symm present

theorem filesOf_failsOnly (v : Value) : FailsOnly (· ≠ .cancelled) (filesOf v) := by
  unfold filesOf
  split
  · exact v.elements_failsOnly
  · exact .ok []

theorem statusOfEntry_failsOnly (service : String) (entry : Option Value) :
    FailsOnly (· ≠ .cancelled) (statusOfEntry service entry) := by
  cases entry with
  | none => exact .ok _
  | some v => exact (filesOf_failsOnly _).bind fun fs => .ok _

theorem statusOfMagnet_failsOnly (service : String) (entry : Value) :
    FailsOnly (· ≠ .cancelled) (statusOfMagnet service entry) := by
  unfold statusOfMagnet
  split
  · exact (filesOf_failsOnly _).bind fun fs => .ok _
  · exact .ok _

theorem readMembers_failsOnly (service : String) (batch : List String) (answer : Value) :
    FailsOnly (· ≠ .cancelled) (readMembers service batch answer) := by
  refine (answer.member_failsOnly "success").bind fun success => ?_
  split
  · refine FailsOnly.bind (.mapM fun h => ?_) fun found => .ok _
    exact (statusOfEntry_failsOnly service _).bind fun s => .ok _
  · exact .ok _

def magnetsOf (answer : Value) : Except Fault Value :=
  if (answer.memberOrNull "data").truthy then (answer.memberOrNull "data").member "magnets"
  else pure .null

def pairStatuses (service : String) (batch : List String) (magnets : Value) :
    Except Fault ResultMap := do
  let entries ← filesOf magnets
  (batch.zip entries).mapM fun (h, entry) => do return (h, ← statusOfMagnet service entry)

theorem readMagnets_eq (service : String) (batch : List String) (answer : Value) :
    readMagnets service batch answer = (do
      match ← answer.member "status" with
      | .str "success" => return .found (← pairStatuses service batch (← magnetsOf answer))
      | _ => return .refused (refusal answer)) := by
  refine congrArg (answer.member "status" >>= ·) (funext fun status => ?_)
  split
  · unfold magnetsOf pairStatuses
    cases truthy : (answer.memberOrNull "data").truthy <;> simp [truthy]
  · simp

theorem readMagnets_failsOnly (service : String) (batch : List String) (answer : Value) :
    FailsOnly (· ≠ .cancelled) (readMagnets service batch answer) := by
  rw [readMagnets_eq]
  have magnets : FailsOnly (· ≠ .cancelled) (magnetsOf answer) := by
    unfold magnetsOf
    split
    · exact Value.member_failsOnly _ _
    · exact .ok _
  refine (answer.member_failsOnly "status").bind fun status => ?_
  split
  · refine magnets.bind fun m => FailsOnly.bind ?_ fun found => .ok _
    refine (filesOf_failsOnly m).bind fun entries => .mapM fun pair => ?_
    exact (statusOfMagnet_failsOnly service pair.2).bind fun s => .ok _
  · exact .ok _

theorem read_failsOnly (p : Provider) (batch : List String) (answer : Value) :
    FailsOnly (· ≠ .cancelled) (read p batch answer) := by
  cases p with
  | realDebrid => exact .ok _
  | torbox => exact readMembers_failsOnly _ batch answer
  | allDebrid => exact readMagnets_failsOnly _ batch answer

theorem service_statusOfEntry {service : String} {entry : Option Value} {s : CacheStatus}
    (h : statusOfEntry service entry = .ok s) : s.service = service := by
  cases entry with
  | none =>
      cases h
      rfl
  | some v =>
      obtain ⟨fs, -, h⟩ := ok_of_bind_ok h
      cases h
      rfl

theorem service_statusOfMagnet {service : String} {entry : Value} {s : CacheStatus}
    (h : statusOfMagnet service entry = .ok s) : s.service = service := by
  unfold statusOfMagnet at h
  split at h
  · obtain ⟨fs, -, h⟩ := ok_of_bind_ok h
    cases h
    rfl
  · cases h
    rfl

/-- A status that a reading may hold: of a hash of the batch, from the service that was asked. -/
def Belongs (service : String) (batch : List String) (r : String × CacheStatus) : Prop :=
  r.1 ∈ batch ∧ r.2.service = service

theorem readVariants_belongs {service : String} {batch : List String} {answer : Value}
    {found : ResultMap} (h : readVariants service batch answer = .found found)
    {r : String × CacheStatus} (hr : r ∈ found) : Belongs service batch r := by
  cases h
  obtain ⟨hash, member, rfl⟩ := List.mem_map.mp hr
  exact ⟨member, rfl⟩

theorem readMembers_belongs {service : String} {batch : List String} {answer : Value}
    {found : ResultMap} (h : readMembers service batch answer = .ok (.found found))
    {r : String × CacheStatus} (hr : r ∈ found) : Belongs service batch r := by
  obtain ⟨success, -, h⟩ := ok_of_bind_ok h
  split at h
  · obtain ⟨statuses, each, h⟩ := ok_of_bind_ok h
    cases h
    obtain ⟨hash, member, single⟩ := mem_of_mapM_ok each hr
    obtain ⟨s, status, single⟩ := ok_of_bind_ok single
    cases single
    exact ⟨member, service_statusOfEntry status⟩
  · cases h

theorem readMagnets_belongs {service : String} {batch : List String} {answer : Value}
    {found : ResultMap} (h : readMagnets service batch answer = .ok (.found found))
    {r : String × CacheStatus} (hr : r ∈ found) : Belongs service batch r := by
  rw [readMagnets_eq] at h
  obtain ⟨status, -, h⟩ := ok_of_bind_ok h
  split at h
  · obtain ⟨magnets, -, h⟩ := ok_of_bind_ok h
    obtain ⟨statuses, paired, h⟩ := ok_of_bind_ok h
    cases h
    obtain ⟨entries, -, each⟩ := ok_of_bind_ok paired
    obtain ⟨pair, member, single⟩ := mem_of_mapM_ok each hr
    obtain ⟨s, status, single⟩ := ok_of_bind_ok single
    cases single
    exact ⟨(List.of_mem_zip member).1, service_statusOfMagnet status⟩
  · cases h

/-- Whatever a provider answers, what is read from it concerns the batch alone. -/
theorem read_belongs {p : Provider} {batch : List String} {answer : Value} {found : ResultMap}
    (h : read p batch answer = .ok (.found found)) {r : String × CacheStatus} (hr : r ∈ found) :
    Belongs p.displayName batch r := by
  cases p with
  | realDebrid => exact readVariants_belongs (Except.ok.inj h) hr
  | torbox => exact readMembers_belongs h hr
  | allDebrid => exact readMagnets_belongs h hr

end Availability
end DebridCache
