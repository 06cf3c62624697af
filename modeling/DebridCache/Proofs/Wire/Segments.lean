import DebridCache.Proofs.Wire.Address

/-!
Paths by their segments. Resolving goes through the segments one by one; how deep it is below some base,
and that the base is left alone as long as nothing climbs above it, is an invariant of that.
-/

namespace DebridCache.Wire

/-- Some segments are in their place, with at least one behind them. -/
def Leads (own ss : List (List Char)) : Prop := own <+: ss ∧ own.length < ss.length

instance (own ss : List (List Char)) : Decidable (Leads own ss) :=
  inferInstanceAs (Decidable (_ ∧ _))

/-- How deep a path is after one more segment, unless that leads above its start. -/
def deeper? (depth : Nat) (segment : List Char) : Option Nat :=
  if isHere segment then some depth
  else if isUp segment then
    match depth with
    | 0 => none
    | depth + 1 => some depth
  else some (depth + 1)

section Segments

theorem joinSegments_eq_intercalate (ss : List (List Char)) : joinSegments ss = ['/'].intercalate ss := by
  induction ss with
  | nil => rfl
  | cons s ss ih =>
      cases ss with
      | nil => exact (List.intercalate_singleton ..).symm
      | cons t ts =>
          show s ++ '/' :: joinSegments (t :: ts) = _
          rw [ih, List.intercalate_cons_cons, List.append_assoc]
          rfl

theorem joinSegments_segments (cs : List Char) : joinSegments (segments cs) = cs := by
  rw [joinSegments_eq_intercalate, segments_eq_splitOn, List.intercalate_splitOn]

theorem segments_joinSegments {ss : List (List Char)} (some : ss ≠ []) (whole : ∀ s ∈ ss, '/' ∉ s) :
    segments (joinSegments ss) = ss := by
  rw [joinSegments_eq_intercalate, segments_eq_splitOn, List.splitOn_intercalate '/' whole some]

theorem segments_ne_nil (cs : List Char) : segments cs ≠ [] := by
  rw [segments_eq_splitOn]
  exact List.splitOn_ne_nil _ _

theorem segments_append_slash (before after : List Char) :
    segments (before ++ '/' :: after) = segments before ++ segments after := by
  simp only [segments_eq_splitOn, List.splitOn_append_cons_self]

theorem joinSegments_cons (s : List Char) {ss : List (List Char)} (some : ss ≠ []) :
    joinSegments (s :: ss) = s ++ '/' :: joinSegments ss := by
  cases ss with
  | nil => exact absurd rfl some
  | cons t ts => rfl

theorem joinSegments_append {ss ts : List (List Char)} (first : ss ≠ []) (rest : ts ≠ []) :
    joinSegments (ss ++ ts) = joinSegments ss ++ '/' :: joinSegments ts := by
  induction ss with
  | nil => exact absurd rfl first
  | cons s ss ih =>
      by_cases last : ss = []
      · rw [last, List.singleton_append, joinSegments_cons s rest]
        rfl
      · rw [List.cons_append, joinSegments_cons s (List.append_ne_nil_of_left_ne_nil last _), ih last,
          joinSegments_cons s last, List.append_assoc]
        rfl

theorem mem_of_mem_segments {cs s : List Char} {c : Char} (segment : s ∈ segments cs) (inside : c ∈ s) :
    c ∈ cs ∧ c ≠ '/' := by
  induction cs generalizing s with
  | nil =>
      rw [List.mem_singleton.mp segment] at inside
      cases inside
  | cons d cs ih =>
      have later {s : List Char} (segment : s ∈ segments cs) (inside : c ∈ s) :=
        (ih segment inside).imp_left (List.mem_cons_of_mem d)
      rw [segments] at segment
      split at segment
      · rcases List.mem_cons.mp segment with rfl | segment
        · cases inside
        · exact later segment inside
      · rename_i other
        cases parts : segments cs with
        | nil => exact absurd parts (segments_ne_nil cs)
        | cons t ts =>
            rw [parts] at segment
            rcases List.mem_cons.mp segment with rfl | segment
            · rcases List.mem_cons.mp inside with rfl | inside
              · exact ⟨List.mem_cons_self, other⟩
              · exact later (parts ▸ List.mem_cons_self) inside
            · exact later (parts ▸ List.mem_cons_of_mem t segment) inside

theorem slash_not_mem_segments {cs s : List Char} (segment : s ∈ segments cs) : '/' ∉ s :=
  fun inside => (mem_of_mem_segments segment inside).2 rfl

end Segments

section Resolution

theorem resolveSegment_still {s : List Char} (here : isHere s = false) (up : isUp s = false)
    (kept : List (List Char)) : resolveSegment kept s = s :: kept := by
  simp [resolveSegment, here, up]

theorem resolveSegment_here {s : List Char} (here : isHere s = true) (kept : List (List Char)) :
    resolveSegment kept s = kept := if_pos here

theorem resolveSegment_up {s : List Char} (up : isUp s = true) (nearest : List Char)
    {rest : List (List Char)} (some : rest ≠ []) : resolveSegment (nearest :: rest) s = rest := by
  obtain rfl : s = ['.', '.'] := of_decide_eq_true up
  cases rest with
  | nil => exact absurd rfl some
  | cons r rest => cases nearest <;> rfl

theorem foldl_still {ss : List (List Char)} (still : ∀ s ∈ ss, isHere s = false ∧ isUp s = false)
    (kept : List (List Char)) : ss.foldl resolveSegment kept = ss.reverse ++ kept := by
  induction ss generalizing kept with
  | nil => rfl
  | cons s ss ih =>
      have first := still s List.mem_cons_self
      rw [List.foldl_cons, resolveSegment_still first.1 first.2,
        ih fun t later => still t (List.mem_cons_of_mem s later), List.reverse_cons, List.append_assoc]
      rfl

theorem resolveSegments_still {ss : List (List Char)}
    (still : ∀ s ∈ ss, isHere s = false ∧ isUp s = false) : resolveSegments ss = ss := by
  rw [resolveSegments, foldl_still still, List.append_nil, List.reverse_reverse]

/-- A path is resolved by its segments, also where there is nothing to resolve. -/
theorem resolvePath_eq (cs : List Char) : resolvePath cs = joinSegments (resolveSegments (segments cs)) := by
  unfold resolvePath
  dsimp only
  split
  · rfl
  · rename_i none
    have still : ∀ s ∈ segments cs, isHere s = false ∧ isUp s = false := by
      intro s member
      simpa using fun dots => none (List.any_eq_true.mpr ⟨s, member, dots⟩)
    rw [resolveSegments_still still, joinSegments_segments]

/-- The empty segment of a leading slash is never given up. -/
theorem resolveSegment_rooted (kept : List (List Char)) (s : List Char) :
    ∃ kept', resolveSegment (kept ++ [[]]) s = kept' ++ [[]] ∧ kept' ⊆ s :: kept := by
  by_cases here : isHere s = true
  · exact ⟨kept, resolveSegment_here here _, List.subset_cons_self s kept⟩
  · by_cases up : isUp s = true
    · cases kept with
      | nil =>
          obtain rfl : s = ['.', '.'] := of_decide_eq_true up
          exact ⟨[], rfl, List.nil_subset _⟩
      | cons k kept =>
          refine ⟨kept, resolveSegment_up up k (by simp), fun t member => ?_⟩
          exact List.mem_cons_of_mem s (List.mem_cons_of_mem k member)
    · exact ⟨s :: kept, resolveSegment_still (by simp [here]) (by simp [up]) _, List.Subset.refl _⟩

theorem foldl_rooted (ss kept : List (List Char)) :
    ∃ above, ss.foldl resolveSegment (kept ++ [[]]) = above ++ [[]] ∧ above ⊆ kept ++ ss := by
  induction ss generalizing kept with
  | nil => exact ⟨kept, rfl, List.subset_append_left kept []⟩
  | cons s ss ih =>
      obtain ⟨kept', step, own⟩ := resolveSegment_rooted kept s
      obtain ⟨above, folded, inside⟩ := ih kept'
      refine ⟨above, by rw [List.foldl_cons, step, folded], fun t member => ?_⟩
      rcases List.mem_append.mp (inside member) with early | late
      · rcases List.mem_cons.mp (own early) with rfl | before
        · exact List.mem_append_right kept List.mem_cons_self
        · exact List.mem_append_left _ before
      · exact List.mem_append_right kept (List.mem_cons_of_mem s late)

theorem resolveSegments_rooted (ss : List (List Char)) :
    ∃ rest, resolveSegments ([] :: ss) = [] :: rest ∧ rest ⊆ ss := by
  obtain ⟨above, folded, inside⟩ := foldl_rooted ss []
  refine ⟨above.reverse, ?_, fun s member => inside (List.mem_reverse.mp member)⟩
  have root : resolveSegment [] [] = [[]] := rfl
  rw [resolveSegments, List.foldl_cons, root]
  rw [List.nil_append] at folded
  rw [folded, List.reverse_append]
  rfl

/-- One segment changes what is kept above a base as it changes the depth. -/
theorem resolveSegment_deeper {above base : List (List Char)} (based : base ≠ []) {s : List Char}
    {depth : Nat} (goes : deeper? above.length s = some depth) :
    ∃ above', resolveSegment (above ++ base) s = above' ++ base ∧ above'.length = depth := by
  unfold deeper? at goes
  split at goes
  · rename_i here
    cases goes
    exact ⟨above, resolveSegment_here here _, rfl⟩
  · rename_i here
    split at goes
    · rename_i up
      cases above with
      | nil => cases goes
      | cons k above =>
          cases goes
          exact ⟨above, resolveSegment_up up k (List.append_ne_nil_of_right_ne_nil above based), rfl⟩
    · rename_i up
      cases goes
      exact ⟨s :: above, resolveSegment_still (by simp [here]) (by simp [up]) _, rfl⟩

/-- Segments that nowhere climb above their start leave alone what was kept before them. -/
theorem foldl_deeper {base : List (List Char)} (based : base ≠ []) (ss above : List (List Char))
    {depth : Nat} (goes : ss.foldlM deeper? above.length = some depth) :
    ∃ above', ss.foldl resolveSegment (above ++ base) = above' ++ base ∧ above'.length = depth := by
  induction ss generalizing above with
  | nil =>
      cases goes
      exact ⟨above, rfl, rfl⟩
  | cons s ss ih =>
      rw [List.foldlM_cons] at goes
      obtain ⟨next, step, rest⟩ := Option.bind_eq_some_iff.mp goes
      obtain ⟨kept, resolved, rfl⟩ := resolveSegment_deeper based step
      rw [List.foldl_cons, resolved]
      exact ih kept rest

theorem foldlM_still {ss : List (List Char)} (still : ∀ s ∈ ss, isHere s = false ∧ isUp s = false)
    (depth : Nat) : ss.foldlM deeper? depth = some (depth + ss.length) := by
  induction ss generalizing depth with
  | nil => rfl
  | cons s ss ih =>
      have first := still s List.mem_cons_self
      have step : deeper? depth s = some (depth + 1) := by simp [deeper?, first]
      rw [List.foldlM_cons, step]
      refine (ih (fun t later => still t (List.mem_cons_of_mem s later)) (depth + 1)).trans ?_
      rw [List.length_cons, Nat.add_right_comm, Nat.add_assoc]

theorem deeper?_add {s : List Char} {depth next : Nat} (step : deeper? depth s = some next) (more : Nat) :
    deeper? (depth + more) s = some (next + more) := by
  by_cases here : isHere s = true
  · simp only [deeper?, here, if_true, Option.some.injEq] at step ⊢
    rw [step]
  · by_cases up : isUp s = true
    · cases depth with
      | zero => simp [deeper?, here, up] at step
      | succ depth =>
          obtain rfl : depth = next := by simpa [deeper?, here, up] using step
          rw [Nat.add_right_comm]
          simp [deeper?, here, up]
    · obtain rfl : depth + 1 = next := by simpa [deeper?, here, up] using step
      simp [deeper?, here, up, Nat.add_right_comm]

theorem foldlM_deeper_add (ss : List (List Char)) {depth ended : Nat}
    (goes : ss.foldlM deeper? depth = some ended) (more : Nat) :
    ss.foldlM deeper? (depth + more) = some (ended + more) := by
  induction ss generalizing depth with
  | nil =>
      cases goes
      rfl
  | cons s ss ih =>
      rw [List.foldlM_cons] at goes
      obtain ⟨next, step, rest⟩ := Option.bind_eq_some_iff.mp goes
      rw [List.foldlM_cons, deeper?_add step]
      exact ih rest

end Resolution

section Escaping

theorem escapePath_joinSegments (ss : List (List Char)) :
    escapePath (joinSegments ss) = joinSegments (ss.map escapePath) := by
  induction ss with
  | nil => rfl
  | cons s ss ih =>
      by_cases last : ss = []
      · rw [last]
        rfl
      · have others : ss.map escapePath ≠ [] := by simpa using last
        rw [joinSegments_cons s last, List.map_cons, joinSegments_cons _ others, ← ih]
        simp only [escapePath, List.flatMap_append, List.flatMap_cons]
        rfl

theorem slash_not_mem_escapePath {s : List Char} (whole : '/' ∉ s) : '/' ∉ escapePath s := by
  intro member
  rcases mem_escapePath member with ⟨inside, -⟩ | mark
  · exact whole inside
  · revert mark
    decide

/-- Joined segments begin with others and a slash just if these lead them. -/
theorem joinSegments_leads_iff {own ss : List (List Char)} (some : own ≠ [])
    (whole : ∀ s ∈ own, '/' ∉ s) (wholes : ∀ s ∈ ss, '/' ∉ s) :
    joinSegments own ++ ['/'] <+: joinSegments ss ↔ Leads own ss := by
  constructor
  · rintro ⟨rest, same⟩
    rw [List.append_assoc, List.singleton_append] at same
    have nonempty : ss ≠ [] := by
      rintro rfl
      simp [joinSegments] at same
    have split : ss = own ++ segments rest := by
      rw [← segments_joinSegments nonempty wholes, ← same, segments_append_slash,
        segments_joinSegments some whole]
    have more := List.length_pos_iff.mpr (segments_ne_nil rest)
    rw [split]
    exact ⟨List.prefix_append _ _, by rw [List.length_append]; omega⟩
  · rintro ⟨⟨rest, rfl⟩, longer⟩
    have more : rest ≠ [] := by
      rintro rfl
      simp at longer
    rw [joinSegments_append some more]
    exact ⟨joinSegments rest, by simp⟩

/-- Escaping makes no segment into one that is plain already. -/
theorem leads_escaped_iff {own ss : List (List Char)} (bare : ∀ s ∈ own, ∀ c ∈ s, IsPathChar c ∧ c ≠ '%') :
    Leads own (ss.map escapePath) ↔ Leads own ss := by
  have placed : own <+: ss.map escapePath ↔ own <+: ss := by
    induction own generalizing ss with
    | nil => simp
    | cons o own ih =>
        cases ss with
        | nil => simp
        | cons s ss =>
            have rest : own <+: ss.map escapePath ↔ own <+: ss :=
              ih fun s later => bare s (List.mem_cons_of_mem o later)
            have first : escapePath s = o ↔ s = o := escapePath_eq_iff (bare o List.mem_cons_self)
            rw [List.map_cons, List.cons_prefix_cons, List.cons_prefix_cons, rest, eq_comm, first, eq_comm]
  rw [Leads, Leads, placed, List.length_map]

end Escaping

end DebridCache.Wire
