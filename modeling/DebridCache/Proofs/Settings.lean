import DebridCache.Settings

/-!
Settings as they are read, and settings that differ in what concerns one provider alone.
-/

namespace DebridCache

def Binary64.AtMost (x y : Binary64) : Prop := (x.place.lt y.place || x.place.eq y.place) = true

instance (x y : Binary64) : Decidable (x.AtMost y) := inferInstanceAs (Decidable (_ = true))

theorem Place.not_lt_of_le {a b : Place} (h : (a.lt b || a.eq b) = true) : b.lt a = false := by
  cases a <;> cases b <;> simp_all [Place.lt, Place.eq]
  omega

theorem Place.le_of_not_lt {a b : Place} (somewhere : a ≠ .nowhere) (somewhere' : b ≠ .nowhere)
    (h : a.lt b = false) : (b.lt a || b.eq a) = true := by
  cases a <;> cases b <;> simp_all [Place.lt, Place.eq]
  omega

theorem Place.lt_of_lt_of_le {a b c : Place} (h : a.lt b = true) (h' : (b.lt c || b.eq c) = true) :
    a.lt c = true := by
  cases a <;> cases b <;> cases c <;> simp_all [Place.lt, Place.eq]
  omega

namespace Settings

/-- Real-Debrid's limits are what its settings may be: a batch holds from one to forty hashes, and the delay
is a number of half a second or more. -/
structure Valid (s : Settings) : Prop where
  least : 1 ≤ s.realDebridBatchSize
  most : s.realDebridBatchSize ≤ 40
  delay : Binary64.half.AtMost s.realDebridBatchDelay

/-- If it is sound, it has a property. -/
def Checked.Holds {α : Type} (P : α → Prop) (c : Checked α) : Prop := ∀ a, c = .sound a → P a

theorem Checked.Holds.any {α : Type} (c : Checked α) : c.Holds fun _ => True := fun _ _ => trivial

theorem Checked.Holds.seq {α β : Type} {f : Checked (α → β)} {a : Checked α} {Q : α → Prop} {P : β → Prop}
    (first : f.Holds fun g => ∀ x, Q x → P (g x)) (second : a.Holds Q) : (f <*> a).Holds P := by
  intro b applied
  cases f with
  | flawed ps => cases applied
  | sound g =>
      cases a with
      | flawed ps => cases applied
      | sound x =>
          cases applied
          exact first g rfl x (second x rfl)

theorem Sources.read_holds {α : Type} {P : α → Prop} (s : Sources) (n : Name)
    {reader : Value → Except Problem α} {default : α} (reads : ∀ v a, reader v = .ok a → P a)
    (usual : P default) : (s.read n reader default).Holds P := by
  intro a read
  unfold Sources.read at read
  split at read
  · rename_i g _
    split at read
    · rename_i b found
      cases read
      exact reads g.value _ found
    · cases read
  · cases read
    exact usual

theorem within_ok {least greatest n m : Int} (h : within least greatest n = .ok m) :
    least ≤ m ∧ m ≤ greatest := by
  unfold within at h
  split at h
  · cases h
  · split at h
    · cases h
    · cases h
      omega

theorem atLeast_ok {least x y : Binary64} (h : atLeast least x = .ok y) : least.AtMost y := by
  unfold atLeast at h
  split at h
  · rename_i above
    cases h
    exact above
  · cases h

theorem readBatchSize_ok (v : Value) (n : Int) (read : readBatchSize v = .ok n) : 1 ≤ n ∧ n ≤ 40 := by
  unfold readBatchSize at read
  cases number : readInt v with
  | error p =>
      rw [number] at read
      cases read
  | ok m =>
      rw [number] at read
      exact within_ok read

theorem readBatchDelay_ok (v : Value) (x : Binary64) (read : readBatchDelay v = .ok x) :
    Binary64.half.AtMost x := by
  unfold readBatchDelay at read
  cases number : readFloat v with
  | error p =>
      rw [number] at read
      cases read
  | ok y =>
      rw [number] at read
      exact atLeast_ok read

theorem check_valid (sources : Sources) : (check sources).Holds Valid := by
  have size := sources.read_holds .realDebridBatchSize readBatchSize_ok
    (by decide : 1 ≤ defaults.realDebridBatchSize ∧ defaults.realDebridBatchSize ≤ 40)
  have delay := sources.read_holds .realDebridBatchDelay readBatchDelay_ok
    (by decide +kernel : Binary64.half.AtMost defaults.realDebridBatchDelay)
  unfold check
  refine .seq (.seq (.seq ?_ size) delay) (.any _)
  iterate 9 refine .seq ?_ (.any _)
  intro build built
  cases built
  intros
  rename_i _ bounds _ least _ _
  exact ⟨bounds.1, bounds.2, least⟩

/-- Settings are valid however they were given. -/
theorem load_valid {sources : Sources} {s : Settings} (loaded : load sources = .ok s) : s.Valid := by
  unfold load at loaded
  split at loaded
  · rename_i checked
    cases loaded
    exact check_valid sources _ checked
  · cases loaded

/-- All that two settings may differ in is what concerns one provider. -/
structure SameBut (q : Provider) (s s' : Settings) : Prop where
  enabled : ∀ p, p ≠ q → s'.enabled p = s.enabled p
  credential : ∀ p, p ≠ q → s'.credential p = s.credential p
  timeout : s'.requestTimeout = s.requestTimeout
  size : q ≠ .realDebrid → s'.realDebridBatchSize = s.realDebridBatchSize
  delay : q ≠ .realDebrid → s'.realDebridBatchDelay = s.realDebridBatchDelay
  agent : q ≠ .allDebrid → s'.allDebridAgent = s.allDebridAgent

end Settings
end DebridCache
