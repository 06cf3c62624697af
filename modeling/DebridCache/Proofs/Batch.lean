import DebridCache.Batch
import DebridCache.Proofs.Fault

/-!
Batches as consecutive pieces of a list. Nothing is lost or repeated, a piece is never longer than the
size asked for, and the item at a place stands in the piece whose index is that place divided by the
size. A feed of batches with a delay in floating point has no fault.
-/

namespace DebridCache

theorem Binary64.one_pos : (0 : Int) < Binary64.one := by
  decide +kernel

theorem Value.less_int (a b : Int) : (Value.int a).less (.int b) = .ok (decide (a < b)) := by
  simp only [less, place?, Binary64.placeOfInt, Place.lt, Int.mul_lt_mul_right Binary64.one_pos]

namespace Batch

variable {α β ω : Type}

@[simp] theorem chunks_nil (size : Nat) : chunks size ([] : List α) = [] := by
  rw [chunks]
  simp

theorem chunks_cons {size : Nat} (positive : 0 < size) {xs : List α} (nonempty : xs ≠ []) :
    chunks size xs = xs.take size :: chunks size (xs.drop size) := by
  rw [chunks]
  have ends : ¬(xs = [] ∨ size = 0) := by
    rintro (h | h)
    · exact nonempty h
    · omega
  rw [if_neg ends]

theorem chunks_induction {size : Nat} (positive : 0 < size) {motive : List α → Prop}
    (nil : motive []) (cons : ∀ xs, xs ≠ [] → motive (xs.drop size) → motive xs) (xs : List α) :
    motive xs := by
  induction h : xs.length using Nat.strongRecOn generalizing xs with
  | ind n ih =>
      by_cases empty : xs = []
      · subst empty
        exact nil
      · have shorter : (xs.drop size).length < n := by
          have := List.length_pos_iff.mpr empty
          rw [List.length_drop]
          omega
        exact cons xs empty (ih _ shorter _ rfl)

theorem flatten_chunks {size : Nat} (positive : 0 < size) (xs : List α) :
    (chunks size xs).flatten = xs := by
  induction xs using chunks_induction positive with
  | nil => simp
  | cons xs nonempty ih =>
      rw [chunks_cons positive nonempty, List.flatten_cons, ih, List.take_append_drop]

theorem length_le_of_mem_chunks {size : Nat} (positive : 0 < size) {xs b : List α}
    (h : b ∈ chunks size xs) : b.length ≤ size := by
  induction xs using chunks_induction positive with
  | nil => simp at h
  | cons xs nonempty ih =>
      rw [chunks_cons positive nonempty] at h
      rcases List.mem_cons.mp h with rfl | later
      · exact List.length_take_le size xs
      · exact ih later

theorem chunks_whole {xs : List α} (nonempty : xs ≠ []) : chunks xs.length xs = [xs] := by
  rw [chunks_cons (List.length_pos_iff.mpr nonempty) nonempty, List.take_length, List.drop_length,
    chunks_nil]

theorem ne_nil_of_mem_chunks {size : Nat} (positive : 0 < size) {xs b : List α}
    (h : b ∈ chunks size xs) : b ≠ [] := by
  induction xs using chunks_induction positive with
  | nil => simp at h
  | cons xs nonempty ih =>
      rw [chunks_cons positive nonempty] at h
      rcases List.mem_cons.mp h with rfl | later
      · intro none
        rcases List.take_eq_nil_iff.mp none with zero | empty
        · omega
        · exact nonempty empty
      · exact ih later

/-- There are as many pieces as it takes, so the count is the quotient rounded up. -/
theorem length_chunks {size : Nat} (positive : 0 < size) (xs : List α) :
    (chunks size xs).length = (xs.length + size - 1) / size := by
  induction xs using chunks_induction positive with
  | nil =>
      rw [chunks_nil]
      exact (Nat.div_eq_of_lt (show 0 + size - 1 < size by omega)).symm
  | cons xs nonempty ih =>
      have some := List.length_pos_iff.mpr nonempty
      rw [chunks_cons positive nonempty, List.length_cons, ih, List.length_drop]
      by_cases last : xs.length ≤ size
      · have none : xs.length - size + size - 1 = size - 1 := by omega
        have one : xs.length + size - 1 = (xs.length - 1) + size := by omega
        rw [none, one, Nat.add_div_right _ positive, Nat.div_eq_of_lt (by omega),
          Nat.div_eq_of_lt (by omega)]
      · have rest : xs.length + size - 1 = xs.length - size + size - 1 + size := by omega
        rw [rest, Nat.add_div_right _ positive]

/-- What is made of each piece together with its companion is found, item by item, at the item's own
place; piece and companion are those at that place divided by the size. -/
theorem getElem?_flatMap_chunks {size : Nat} (positive : 0 < size) (g : ω → α → β) (xs : List α)
    (os : List ω) (same : os.length = (chunks size xs).length) (i : Nat) (x : α)
    (h : xs[i]? = some x) :
    ∃ b o, (chunks size xs)[i / size]? = some b ∧ x ∈ b ∧ os[i / size]? = some o ∧
      (((chunks size xs).zip os).flatMap fun p => p.1.map (g p.2))[i]? = some (g o x) := by
  induction xs using chunks_induction positive generalizing os i with
  | nil => simp at h
  | cons xs nonempty ih =>
      rw [chunks_cons positive nonempty] at same ⊢
      cases os with
      | nil => simp at same
      | cons o os =>
          rw [List.zip_cons_cons, List.flatMap_cons]
          by_cases here : i < size
          · have inside : (xs.take size)[i]? = some x := by
              rw [List.getElem?_take_of_lt here]
              exact h
            have first : ((xs.take size).map (g o))[i]? = some (g o x) := by
              rw [List.getElem?_map, inside]
              rfl
            rw [Nat.div_eq_of_lt here]
            refine ⟨xs.take size, o, rfl, List.mem_of_getElem? inside, rfl, ?_⟩
            rw [List.getElem?_append_left (List.getElem?_eq_some_iff.mp first).1]
            exact first
          · have full : (xs.take size).length = size := by
              have := (List.getElem?_eq_some_iff.mp h).1
              rw [List.length_take]
              omega
            have later : (xs.drop size)[i - size]? = some x := by
              rw [List.getElem?_drop, Nat.add_sub_cancel' (Nat.le_of_not_lt here)]
              exact h
            obtain ⟨b, p, hb, inside, hp, found⟩ := ih os (by simpa using same) (i - size) later
            rw [Nat.div_eq_sub_div positive (Nat.le_of_not_lt here)]
            refine ⟨b, p, hb, inside, hp, ?_⟩
            rw [List.getElem?_append_right (by rw [List.length_map, full]; omega),
              List.length_map, full]
            exact found

theorem split_int (xs : List α) {size : Int} (positive : 1 ≤ size) :
    split xs (.int size) = .ok (chunks size.toNat xs) := by
  have fits : ¬ size < 1 := by omega
  simp only [split, checkSize, Value.less_int, step, Value.whole?, decide_eq_false fits]
  rfl

def waits (delay : Value) : Bool :=
  match delay.greater (.int 0) with
  | .ok positive => positive
  | .error _ => false

/-- With a delay in floating point there is at most one pause, and no fault. The first batch has none
before it. -/
theorem gap_float (delay : Binary64) (index total : Nat) :
    ∃ e, (gap (.float delay) index total : Except Fault (List (Tick α))) =
      .ok (if index = 0 ∨ waits (.float delay) = false then [] else [.pause (.float delay) e]) := by
  unfold gap waits
  by_cases first : index = 0
  · exact ⟨default, by simp [first]⟩
  · cases h : Value.greater (.float delay) (.int 0) with
    | error f => simp [Value.greater, Value.place?] at h
    | ok positive =>
        cases positive with
        | false => exact ⟨default, by simp [first, bind, Except.bind, pure, Except.pure]⟩
        | true =>
            simp only [first, false_or, Bool.true_eq_false, if_false]
            exact ⟨_, rfl⟩

theorem gap_eq_ok {delay : Value} {index total : Nat} {before : List (Tick α)}
    (made : gap delay index total = .ok before) :
    (before = [] ∧ (index = 0 ∨ waits delay = false)) ∨
      (waits delay = true ∧ ∃ e, before = [.pause delay e]) := by
  unfold gap at made
  unfold waits
  split at made
  · rename_i first
    cases made
    exact .inl ⟨rfl, .inl first⟩
  · obtain ⟨positive, compared, made⟩ := ok_of_bind_ok made
    rw [compared]
    cases positive with
    | false =>
        cases made
        exact .inl ⟨rfl, .inr rfl⟩
    | true =>
        obtain ⟨text, -, made⟩ := ok_of_bind_ok made
        cases made
        exact .inr ⟨rfl, _, rfl⟩

/-- A feed has nothing in it but its batches and pauses of the one delay. -/
theorem mem_ticks_spaced {delay : Value} {total index : Nat} {bs : List (List α)} {tick : Tick α}
    (member : tick ∈ (spaced delay total index bs).ticks) :
    (∃ b ∈ bs, tick = .batch b) ∨ (waits delay = true ∧ ∃ e, tick = .pause delay e) := by
  induction bs generalizing index with
  | nil => cases member
  | cons b bs ih =>
      unfold spaced at member
      split at member
      · cases member
      · rename_i before made
        rcases List.mem_append.mp member with early | late
        · rcases gap_eq_ok made with ⟨rfl, -⟩ | ⟨waiting, e, rfl⟩
          · cases early
          · exact .inr ⟨waiting, e, List.mem_singleton.mp early⟩
        · rcases List.mem_cons.mp late with rfl | later
          · exact .inl ⟨b, List.mem_cons_self, rfl⟩
          · rcases ih later with ⟨b', more, same⟩ | pause
            · exact .inl ⟨b', List.mem_cons_of_mem b more, same⟩
            · exact .inr pause

theorem subset_of_mem_chunks {size : Nat} {xs b : List α} (member : b ∈ chunks size xs) : b ⊆ xs := by
  by_cases none : size = 0
  · rw [chunks, if_pos (.inr none)] at member
    cases member
  · have part := List.sublist_flatten_of_mem member
    rw [flatten_chunks (Nat.pos_of_ne_zero none)] at part
    exact part.subset

/-- The batches of a feed are parts of the list that was split, whatever the size is. -/
theorem subset_of_mem_feed {xs b : List α} {size delay : Value}
    (member : .batch b ∈ (feed (split xs size) delay).ticks) : b ⊆ xs := by
  unfold feed at member
  split at member
  · cases member
  · rename_i bs made
    obtain ⟨-, -, made⟩ := ok_of_bind_ok made
    obtain ⟨count, -, made⟩ := ok_of_bind_ok made
    cases made
    rcases mem_ticks_spaced member with ⟨b', piece, same⟩ | ⟨-, e, same⟩
    · cases same
      exact subset_of_mem_chunks piece
    · cases same

/-- What the work for each batch has, and all ways to go on keep, running through the ticks has. -/
theorem consumeTicks_all {β : Type} {Q : Exchange β → Prop} {f : β → List α → Exchange β}
    (ended : ∀ b, Q (.done b)) (bound : ∀ x k, Q x → (∀ b, Q (k b)) → Q (Exchange.bind x k))
    (ticks : List (Tick α)) (paused : ∀ x d e, .pause d e ∈ ticks → Q x → Q (.note e (.sleep d x)))
    (each : ∀ b items, .batch items ∈ ticks → Q (f b items)) (start : β) :
    Q (consumeTicks f start ticks) := by
  induction ticks generalizing start with
  | nil => exact ended start
  | cons tick ticks ih =>
      have rest (b : β) : Q (consumeTicks f b ticks) :=
        ih (fun x d e member => paused x d e (List.mem_cons_of_mem tick member))
          (fun b items member => each b items (List.mem_cons_of_mem tick member)) b
      cases tick with
      | batch items => exact bound _ _ (each start items List.mem_cons_self) rest
      | pause d e => exact paused _ d e List.mem_cons_self (rest start)

end Batch
end DebridCache
