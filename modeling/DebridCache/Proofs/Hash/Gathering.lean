import DebridCache.Proofs.Hash
import Mathlib.Data.Finset.Lattice.Lemmas

/-!
Hashes gathered in one pass. An item adds its normal form, unless it is empty or its form was met before.
So the forms stand in the order of the items that name them first, and more items only add to the end.
-/

namespace DebridCache.Hash

/-- What a pass over some items carries: the forms that were met, and the hashes in the order in which
they were. -/
structure Gathered where
  met : Finset String
  kept : List String

namespace Gathered

def add (g : Gathered) (item : String) : Gathered :=
  if item = "" then g
  else if normalize item ∈ g.met then g
  else ⟨insert (normalize item) g.met, g.kept ++ [normalize item]⟩

/-- The forms that were met are those that are kept. -/
def InStep (g : Gathered) : Prop := g.met = g.kept.toFinset

theorem InStep.add {g : Gathered} (inStep : g.InStep) (item : String) : (g.add item).InStep := by
  unfold Gathered.add
  split
  · exact inStep
  · split
    · exact inStep
    · rw [InStep, List.toFinset_append, Finset.union_comm, ← inStep]
      rfl

theorem InStep.kept_add {g : Gathered} (inStep : g.InStep) (item : String) :
    (g.add item).kept =
      if item = "" ∨ normalize item ∈ g.kept then g.kept else g.kept ++ [normalize item] := by
  have met : normalize item ∈ g.met ↔ normalize item ∈ g.kept := by rw [inStep, List.mem_toFinset]
  unfold Gathered.add
  by_cases empty : item = ""
  · rw [if_pos empty, if_pos (.inl empty)]
  · by_cases before : normalize item ∈ g.kept
    · rw [if_neg empty, if_pos (met.mpr before), if_pos (.inr before)]
    · rw [if_neg empty, if_neg (mt met.mp before), if_neg (not_or.mpr ⟨empty, before⟩)]

end Gathered

def gather (items : List String) : Gathered := items.foldl Gathered.add ⟨∅, []⟩

theorem gather_concat (items : List String) (item : String) :
    gather (items ++ [item]) = (gather items).add item := by
  rw [gather, List.foldl_append]
  rfl

theorem gather_inStep (items : List String) : (gather items).InStep := by
  induction items using List.reverseRecOn with
  | nil => rfl
  | append_singleton items item ih =>
      rw [gather_concat]
      exact ih.add item

theorem eraseDups_concat (forms : List String) (form : String) :
    (forms ++ [form]).eraseDups =
      if form ∈ forms then forms.eraseDups else forms.eraseDups ++ [form] := by
  rw [List.eraseDups_append, List.removeAll]
  by_cases before : form ∈ forms
  · simp [before]
  · simp [before, List.eraseDups_cons]

/-- One more item is asked for at the end, or not at all. -/
theorem asked_concat (items : List String) (item : String) :
    asked (items ++ [item]) =
      if item = "" ∨ normalize item ∈ asked items then asked items
      else asked items ++ [normalize item] := by
  by_cases empty : item = ""
  · rw [if_pos (.inl empty), asked, List.filter_append, empty]
    simp [asked]
  · have filtered : (items ++ [item]).filter (fun h => h ≠ "") =
        items.filter (fun h => h ≠ "") ++ [item] := by
      rw [List.filter_append]
      simp [empty]
    rw [asked, filtered, List.map_append, List.map_singleton, eraseDups_concat]
    simp only [empty, false_or, asked, List.mem_eraseDups]

/-- The pass keeps what is asked for. -/
theorem gather_kept (items : List String) : (gather items).kept = asked items := by
  induction items using List.reverseRecOn with
  | nil => rfl
  | append_singleton items item ih =>
      rw [gather_concat, (gather_inStep items).kept_add, ih, asked_concat]

def firsts (items : List String) : List String :=
  (items.zipIdx.filter fun p => p.1 ∉ items.take p.2).map (·.1)

theorem firsts_concat (items : List String) (item : String) :
    firsts (items ++ [item]) = if item ∈ items then firsts items else firsts items ++ [item] := by
  have early : items.zipIdx.filter (fun p => p.1 ∉ (items ++ [item]).take p.2) =
      items.zipIdx.filter fun p => p.1 ∉ items.take p.2 := by
    apply List.filter_congr
    intro p member
    have inside := List.snd_lt_of_mem_zipIdx member
    rw [List.take_append_of_le_length (by omega)]
  rw [firsts, List.zipIdx_append, List.filter_append, List.map_append, early]
  by_cases before : item ∈ items
  · simp [before, firsts]
  · simp [before, firsts]

theorem eraseDups_eq_firsts (items : List String) : items.eraseDups = firsts items := by
  induction items using List.reverseRecOn with
  | nil => rfl
  | append_singleton items item ih => rw [eraseDups_concat, firsts_concat, ih]

/-- The place of the first item that names a form; past the end where none does. -/
def firstPlace (items : List String) (form : String) : Nat :=
  items.findIdx fun item => item ≠ "" ∧ normalize item = form

theorem firstPlace_lt_iff {items : List String} {form : String} :
    firstPlace items form < items.length ↔ form ∈ asked items := by
  rw [firstPlace, List.findIdx_lt_length, mem_asked]
  simp only [decide_eq_true_eq]

theorem firstPlace_append {items : List String} {form : String} (named : form ∈ asked items)
    (more : List String) : firstPlace (items ++ more) form = firstPlace items form := by
  have inside := firstPlace_lt_iff.mpr named
  rw [firstPlace, List.findIdx_append]
  exact if_pos inside

theorem le_firstPlace_append {items : List String} {form : String} (unnamed : form ∉ asked items)
    (more : List String) : items.length ≤ firstPlace (items ++ more) form := by
  have outside := mt firstPlace_lt_iff.mp unnamed
  rw [firstPlace, List.findIdx_append]
  exact (Nat.le_add_left _ _).trans (if_neg outside).ge

/-- The hashes asked for stand in the order of the items that name them first. -/
theorem asked_ordered (items : List String) :
    (asked items).Pairwise fun form later => firstPlace items form < firstPlace items later := by
  induction items using List.reverseRecOn with
  | nil => exact .nil
  | append_singleton items item ih =>
      have kept : (asked items).Pairwise fun form later =>
          firstPlace (items ++ [item]) form < firstPlace (items ++ [item]) later := by
        refine ih.imp_of_mem fun form later order => ?_
        rw [firstPlace_append form, firstPlace_append later]
        exact order
      rw [asked_concat]
      split
      · exact kept
      · rename_i new
        refine List.pairwise_append.mpr ⟨kept, List.pairwise_singleton _ _, ?_⟩
        intro form earlier later last
        rw [List.mem_singleton.mp last, firstPlace_append earlier]
        exact (firstPlace_lt_iff.mpr earlier).trans_le (le_firstPlace_append (not_or.mp new).2 _)

/-- What more items ask for comes behind, without what was asked for already. -/
theorem asked_append (items more : List String) :
    asked (items ++ more) = asked items ++ (asked more).filter fun form => form ∉ asked items := by
  -- `more` grows at its end, so both sides take one step; only where the form stood before differs
  induction more using List.reverseRecOn with
  | nil => simp [asked]
  | append_singleton more item ih =>
      rw [← List.append_assoc, asked_concat, asked_concat, ih]
      by_cases empty : item = ""
      · rw [if_pos (.inl empty), if_pos (.inl empty)]
      · by_cases again : normalize item ∈ asked more
        · by_cases before : normalize item ∈ asked items <;> simp [again, before]
        · by_cases before : normalize item ∈ asked items <;> simp [empty, again, before]

/-- What a list of texts asks for are the normal forms of its items that are not empty, each once, in the
order of the items that name them first. One pass with a set beside the list ends with them, and more
items add to the end what is new in them. -/
theorem unique_keeps_firsts (items more : List String) :
    ∃ u v, unique (.arr (items.map .str)) = .ok u ∧ unique (.arr (more.map .str)) = .ok v ∧
      u.Nodup ∧ (∀ form, form ∈ u ↔ ∃ item ∈ items, item ≠ "" ∧ normalize item = form) ∧
      (u.Pairwise fun form later => firstPlace items form < firstPlace items later) ∧
      u = firsts ((items.filter fun item => item ≠ "").map normalize) ∧
      gather items = ⟨u.toFinset, u⟩ ∧
      unique (.arr ((items ++ more).map .str)) = .ok (u ++ v.filter fun form => form ∉ u) := by
  have gathered : gather items = ⟨(asked items).toFinset, asked items⟩ := by
    rw [← gather_kept, ← gather_inStep]
  refine ⟨asked items, asked more, unique_texts items, unique_texts more, nodup_asked items,
    fun form => mem_asked, asked_ordered items, eraseDups_eq_firsts _, gathered, ?_⟩
  rw [unique_texts, asked_append]

example : unique (.arr [.str "B", .str "", .str "a", .str " b "]) = .ok ["b", "a"] := rfl

end DebridCache.Hash
