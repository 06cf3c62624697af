import DebridCache.Fault

/-!
Computations that may fail. One in steps fails only with what some step of it fails with, and one that
goes through a list succeeds with what its steps succeed with, item by item.
-/

namespace DebridCache

variable {α β : Type} {P : Fault → Prop}

/-- Every fault that comes out is of a kind. -/
def FailsOnly (P : Fault → Prop) (e : Except Fault α) : Prop := ∀ f, e = .error f → P f

namespace FailsOnly

theorem ok (a : α) : FailsOnly P (.ok a : Except Fault α) := by
  intro f h
  cases h

theorem error {f : Fault} (h : P f) : FailsOnly P (.error f : Except Fault α) := by
  intro g hg
  cases hg
  exact h

theorem bind {e : Except Fault α} {k : α → Except Fault β} (he : FailsOnly P e)
    (hk : ∀ a, FailsOnly P (k a)) : FailsOnly P (e >>= k) := by
  cases e with
  | ok a => exact hk a
  | error f => exact error (he f rfl)

theorem map {e : Except Fault α} (he : FailsOnly P e) (g : α → β) : FailsOnly P (e.map g) := by
  cases e with
  | ok a => exact ok (g a)
  | error f => exact error (he f rfl)

theorem mapM {xs : List α} {k : α → Except Fault β} (hk : ∀ a, FailsOnly P (k a)) :
    FailsOnly P (xs.mapM k) := by
  induction xs with
  | nil => exact ok []
  | cons x xs ih =>
      rw [List.mapM_cons]
      exact (hk x).bind fun y => ih.bind fun ys => ok (y :: ys)

end FailsOnly

theorem ok_of_bind_ok {e : Except Fault α} {k : α → Except Fault β} {b : β}
    (h : (e >>= k) = .ok b) : ∃ a, e = .ok a ∧ k a = .ok b := by
  cases e with
  | ok a => exact ⟨a, rfl, h⟩
  | error f => cases h

theorem mem_of_mapM_ok {f : α → Except Fault β} {xs : List α} {ys : List β}
    (h : xs.mapM f = .ok ys) {y : β} (hy : y ∈ ys) : ∃ x ∈ xs, f x = .ok y := by
  induction xs generalizing ys with
  | nil =>
      cases h
      cases hy
  | cons x xs ih =>
      rw [List.mapM_cons] at h
      obtain ⟨z, first, h⟩ := ok_of_bind_ok h
      obtain ⟨zs, rest, h⟩ := ok_of_bind_ok h
      cases h
      rcases List.mem_cons.mp hy with rfl | later
      · exact ⟨x, List.mem_cons_self, first⟩
      · obtain ⟨w, hw, found⟩ := ih rest later
        exact ⟨w, List.mem_cons_of_mem x hw, found⟩

theorem exists_of_mapM_ok {f : α → Except Fault β} {xs : List α} {ys : List β}
    (h : xs.mapM f = .ok ys) {x : α} (hx : x ∈ xs) : ∃ y, f x = .ok y := by
  induction xs generalizing ys with
  | nil => cases hx
  | cons z zs ih =>
      rw [List.mapM_cons] at h
      obtain ⟨y, first, h⟩ := ok_of_bind_ok h
      obtain ⟨rest, later, -⟩ := ok_of_bind_ok h
      rcases List.mem_cons.mp hx with rfl | member
      · exact ⟨y, first⟩
      · exact ih later member

theorem mapM_pure_of_forall {m : Type → Type} [Monad m] [LawfulMonad m] {f : α → m β} {g : α → β}
    {xs : List α} (h : ∀ x ∈ xs, f x = pure (g x)) : xs.mapM f = pure (xs.map g) := by
  induction xs with
  | nil => rfl
  | cons x xs ih =>
      rw [List.mapM_cons, h x List.mem_cons_self, ih fun y hy => h y (List.mem_cons_of_mem x hy)]
      simp

theorem mapM_ok_of_forall {f : α → Except Fault β} {g : α → β} {xs : List α}
    (h : ∀ x ∈ xs, f x = .ok (g x)) : xs.mapM f = .ok (xs.map g) := mapM_pure_of_forall h

theorem exists_mapM_ok {f : α → Except Fault β} {xs : List α} (each : ∀ x ∈ xs, ∃ y, f x = .ok y) :
    ∃ ys, xs.mapM f = .ok ys := by
  induction xs with
  | nil => exact ⟨[], rfl⟩
  | cons x xs ih =>
      obtain ⟨y, first⟩ := each x List.mem_cons_self
      obtain ⟨ys, rest⟩ := ih fun z later => each z (List.mem_cons_of_mem x later)
      refine ⟨y :: ys, ?_⟩
      rw [List.mapM_cons, first, rest]
      rfl

theorem map_of_mapM_ok {γ : Type} {f : α → Except Fault β} {g : β → γ} {k : α → γ} {xs : List α}
    {ys : List β} (each : ∀ x ∈ xs, ∀ y, f x = .ok y → g y = k x) (h : xs.mapM f = .ok ys) :
    ys.map g = xs.map k := by
  induction xs generalizing ys with
  | nil =>
      cases h
      rfl
  | cons x xs ih =>
      rw [List.mapM_cons] at h
      obtain ⟨z, first, h⟩ := ok_of_bind_ok h
      obtain ⟨zs, rest, h⟩ := ok_of_bind_ok h
      cases h
      rw [List.map_cons, List.map_cons, each x List.mem_cons_self z first,
        ih (fun w later => each w (List.mem_cons_of_mem x later)) rest]

end DebridCache
