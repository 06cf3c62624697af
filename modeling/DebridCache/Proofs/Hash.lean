import DebridCache.Hash
import DebridCache.Proofs.Fault
import DebridCache.Proofs.Text.Lowercase

/-!
The hashes that some texts ask for: the normal forms of those that are not empty, none of them twice. A
normal form is its own, so asking for it again asks for the same hash, unless it is empty.
-/

namespace DebridCache.Hash

/-- What is asked for when every item is text. -/
def asked (hashes : List String) : List String :=
  ((hashes.filter fun h => h ≠ "").map normalize).eraseDups

structure Plain (h : String) : Prop where
  nonempty : h ≠ ""
  short : h.length ≤ 64
  letters : ∀ c ∈ h.toList, c.isAlphanum = true

theorem plain_iff {h : String} :
    Plain h ↔ h ≠ "" ∧ h.length ≤ 64 ∧ h.toList.all Char.isAlphanum = true := by
  constructor
  · intro plain
    exact ⟨plain.nonempty, plain.short, List.all_eq_true.mpr plain.letters⟩
  · rintro ⟨nonempty, short, letters⟩
    exact ⟨nonempty, short, List.all_eq_true.mp letters⟩

instance : DecidablePred Plain := fun _ => decidable_of_iff _ plain_iff.symm

theorem nodup_eraseDups (forms : List String) : forms.eraseDups.Nodup := by
  induction count : forms.length using Nat.strongRecOn generalizing forms with
  | ind n ih =>
      cases forms with
      | nil => simp
      | cons form rest =>
          have shorter : (rest.filter fun other => !other == form).length < n := by
            have := List.length_filter_le (fun other => !other == form) rest
            rw [List.length_cons] at count
            omega
          rw [List.eraseDups_cons, List.nodup_cons]
          refine ⟨?_, ih _ shorter _ rfl⟩
          intro again
          have kept := (List.mem_filter.mp (List.mem_eraseDups.mp again)).2
          simp at kept

theorem eraseDups_of_nodup {forms : List String} (distinct : forms.Nodup) : forms.eraseDups = forms := by
  induction forms with
  | nil => rfl
  | cons form rest ih =>
      obtain ⟨new, others⟩ := List.nodup_cons.mp distinct
      have kept : (rest.filter fun other => !other == form) = rest := by
        rw [List.filter_eq_self]
        intro other member
        simp [ne_of_mem_of_not_mem member new]
      rw [List.eraseDups_cons, kept, ih others]

theorem nodup_unique {input : Value} {hashes : List String} (asked : unique input = .ok hashes) :
    hashes.Nodup := by
  unfold unique at asked
  split at asked
  · obtain ⟨items, -, asked⟩ := ok_of_bind_ok asked
    obtain ⟨forms, -, asked⟩ := ok_of_bind_ok asked
    cases asked
    exact nodup_eraseDups forms
  · cases asked
    exact List.nodup_nil

theorem nodup_asked (hashes : List String) : (asked hashes).Nodup := nodup_eraseDups _

theorem mem_asked {hashes : List String} {form : String} :
    form ∈ asked hashes ↔ ∃ h ∈ hashes, h ≠ "" ∧ normalize h = form := by
  simp only [asked, List.mem_eraseDups, List.mem_map, List.mem_filter, decide_eq_true_eq, and_assoc]

theorem asked_eq_nil {hashes : List String} (empty : ∀ h ∈ hashes, h = "") : asked hashes = [] := by
  have none : (hashes.filter fun h => h ≠ "") = [] := by
    rw [List.filter_eq_nil_iff]
    intro h member
    simp [empty h member]
  rw [asked, none]
  rfl

/-- A normal form is its own, for whatever text. -/
theorem normalize_normalize (h : String) : normalize (normalize h) = normalize h := by
  have bare := Text.bare_lower (Text.bare_strip h.toList)
  rw [normalize, normalize, String.toList_ofList, Text.strip_of_bare bare, Text.lower_lower]

/-- Text of blanks alone, or of nothing, has an empty normal form; no other text has. -/
theorem normalize_eq_empty_iff {h : String} :
    normalize h = "" ↔ ∀ c ∈ h.toList, Text.isBlank c = true := by
  rw [normalize, String.ofList_eq_empty_iff, Text.lower_eq_nil_iff, Text.strip_eq_nil_iff]

theorem asked_of_nodup {forms : List String} (distinct : forms.Nodup)
    (normal : ∀ h ∈ forms, normalize h = h) : asked forms = forms.filter fun h => h ≠ "" := by
  have same : (forms.filter fun h => h ≠ "").map normalize = forms.filter fun h => h ≠ "" := by
    refine (List.map_congr_left fun h member => ?_).trans (List.map_id _)
    exact normal h (List.mem_of_mem_filter member)
  rw [asked, same, eraseDups_of_nodup (distinct.filter _)]

/-- What is asked for again is the same without the empty hash. -/
theorem asked_asked (hashes : List String) :
    asked (asked hashes) = (asked hashes).filter fun h => h ≠ "" := by
  apply asked_of_nodup (nodup_asked hashes)
  intro form member
  obtain ⟨h, -, -, rfl⟩ := mem_asked.mp member
  exact normalize_normalize h

/-- Texts always name hashes, so asking for them has no fault. -/
theorem unique_texts (hashes : List String) :
    unique (.arr (hashes.map .str)) = .ok (asked hashes) := by
  have kept : (hashes.map Value.str).filter Value.truthy =
      (hashes.filter fun h => h ≠ "").map Value.str := by
    rw [List.filter_map]
    rfl
  have forms : normalForms (hashes.map Value.str) =
      .ok ((hashes.filter fun h => h ≠ "").map normalize) := by
    rw [normalForms, kept, List.mapM_map]
    exact mapM_ok_of_forall fun h _ => rfl
  unfold unique
  cases hashes with
  | nil => rfl
  | cons h hs =>
      show (normalForms ((h :: hs).map Value.str) >>= fun forms => pure forms.eraseDups) = _
      rw [forms]
      rfl

end DebridCache.Hash
