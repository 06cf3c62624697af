import DebridCache.Status

/-!
Results of a check, and what laying found statuses over them does: the hashes stay, and a hash that was
not found keeps its status.
-/

namespace DebridCache

section Lookup

variable {κ β γ : Type}

theorem keys_each (keys : List κ) (value : κ → β) :
    (keys.map fun k => (k, value k)).map (·.1) = keys := by
  rw [List.map_map]
  exact List.map_id keys

variable [BEq κ] [LawfulBEq κ]

theorem lookup_map (f : κ → β → γ) (rows : List (κ × β)) (k : κ) :
    (rows.map fun row => (row.1, f row.1 row.2)).lookup k = (rows.lookup k).map (f k) := by
  induction rows with
  | nil => rfl
  | cons row rest ih =>
      by_cases same : k = row.1
      · subst same
        rw [List.map_cons, List.lookup_cons_self, show row = (row.1, row.2) from rfl,
          List.lookup_cons_self]
        rfl
      · rw [List.map_cons, List.lookup_cons, List.lookup_cons, beq_false_of_ne same]
        exact ih

theorem lookup_map_of_mem {keys : List κ} (value : κ → β) {k : κ} (member : k ∈ keys) :
    (keys.map fun k => (k, value k)).lookup k = some (value k) := by
  induction keys with
  | nil => cases member
  | cons other rest ih =>
      rw [List.map_cons]
      by_cases same : k = other
      · subst same
        exact List.lookup_cons_self
      · rw [List.lookup_cons, beq_false_of_ne same]
        exact ih ((List.mem_cons.mp member).resolve_left same)

theorem lookup_filter_ne {k other : κ} (apart : k ≠ other) (rows : List (κ × β)) :
    (rows.filter fun row => row.1 != other).lookup k = rows.lookup k := by
  induction rows with
  | nil => rfl
  | cons row rest ih =>
      by_cases own : row.1 = other
      · rw [List.filter_cons_of_neg (by simp [own]), ih, List.lookup_cons,
          beq_false_of_ne (own ▸ apart)]
      · rw [List.filter_cons_of_pos (by simp [own]), List.lookup_cons, List.lookup_cons, ih]

end Lookup

namespace ResultMap

theorem keys_overlay (found results : ResultMap) :
    (overlay found results).map (·.1) = results.map (·.1) := by
  unfold overlay
  rw [List.map_map]
  rfl

theorem overlay_append (found xs ys : ResultMap) :
    overlay found (xs ++ ys) = overlay found xs ++ overlay found ys := by
  unfold overlay
  rw [List.map_append]

theorem overlay_of_disjoint {found results : ResultMap}
    (disjoint : ∀ r ∈ results, ∀ f ∈ found, f.1 ≠ r.1) : overlay found results = results := by
  have kept : ∀ r ∈ results, (r.1, (found.lookup r.1).getD r.2) = r := by
    intro r member
    have absent : found.lookup r.1 = none := by
      rw [List.lookup_eq_none_iff]
      intro f hf
      exact bne_iff_ne.mpr (disjoint r member f hf).symm
    rw [absent]
    rfl
  exact (List.map_congr_left kept).trans (List.map_id results)

theorem overlay_map (hashes : List String) (status held : String → CacheStatus) :
    overlay (hashes.map fun h => (h, status h)) (hashes.map fun h => (h, held h)) =
      hashes.map fun h => (h, status h) := by
  unfold overlay
  rw [List.map_map]
  apply List.map_congr_left
  intro h member
  show (h, ((hashes.map fun h => (h, status h)).lookup h).getD (held h)) = (h, status h)
  rw [lookup_map_of_mem status member]
  rfl

theorem lookup_of_mem {results : ResultMap} (distinct : (results.map (·.1)).Nodup) {h : String}
    {status : CacheStatus} (member : (h, status) ∈ results) : results.lookup h = some status := by
  induction results with
  | nil => cases member
  | cons r rest ih =>
      rw [List.map_cons, List.nodup_cons] at distinct
      rcases List.mem_cons.mp member with rfl | later
      · exact List.lookup_cons_self
      · have other : h ≠ r.1 := by
          intro same
          exact distinct.1 (same ▸ List.mem_map_of_mem later)
        rw [List.lookup_cons, beq_false_of_ne other]
        exact ih distinct.2 later

/-- Statuses found for each of some hashes once are what is left when they are laid over. -/
theorem overlay_eq_found {found : ResultMap} (distinct : (found.map (·.1)).Nodup)
    (held : String → CacheStatus) :
    overlay found ((found.map (·.1)).map fun h => (h, held h)) = found := by
  unfold overlay
  rw [List.map_map, List.map_map]
  refine (List.map_congr_left fun r member => ?_).trans (List.map_id found)
  show (r.1, (found.lookup r.1).getD (held r.1)) = r
  rw [lookup_of_mem distinct member]
  rfl

end ResultMap
end DebridCache
