import DebridCache.Proofs.Availability.Schedule
import DebridCache.Proofs.Value.Brief

/-!
Batches as a partition, and the feed of them for any consumer. Only one list of pieces is full but for its
last, so the batches are settled by the list and the size. A consumer who leaves has seen the feed of the
batches taken, with a sleep between each two and none behind the last; so has one that fails.
-/

namespace DebridCache

/-- Above zero. Not-a-number is not, nor is a zero of either sign. -/
def Binary64.isPositive : Binary64 → Bool
  | .nan => false
  | .infinite negative => !negative
  | .finite negative units => !negative && units ≠ 0

theorem Value.float_greater_zero (x : Binary64) : (Value.float x).greater (.int 0) = .ok x.isPositive := by
  cases x with
  | nan => rfl
  | infinite negative => cases negative <;> rfl
  | finite negative units =>
      have origin : Binary64.placeOfInt 0 = .at 0 := congrArg Place.at (Int.zero_mul _)
      rw [greater, place?, place?, origin]
      cases negative with
      | true =>
          have below : ¬ (0 : Int) < -(units : Int) := by omega
          exact congrArg Except.ok (decide_eq_false below)
      | false =>
          have above : (0 : Int) < (units : Int) ↔ units ≠ 0 := by omega
          exact congrArg Except.ok (decide_eq_decide.mpr above)

namespace Batch

variable {α β : Type}

/-- A list cut into pieces that are full, but for the last, which has one item at least. -/
structure Pieces (size : Nat) (xs : List α) (pieces : List (List α)) : Prop where
  whole : pieces.flatten = xs
  full : ∀ piece ∈ pieces.dropLast, piece.length = size
  rest : ∀ piece ∈ pieces.getLast?, 1 ≤ piece.length ∧ piece.length ≤ size

theorem Pieces.eq_chunks {size : Nat} (positive : 0 < size) {xs : List α} {pieces : List (List α)}
    (cut : Pieces size xs pieces) : pieces = chunks size xs := by
  obtain ⟨rfl, full, rest⟩ := cut
  -- the first piece is the last one, or else it is full and the others cut what is left
  induction pieces with
  | nil => exact (chunks_nil size).symm
  | cons piece more ih =>
      cases more with
      | nil =>
          obtain ⟨some, fits⟩ := rest piece rfl
          rw [List.flatten_singleton, chunks_cons positive (List.length_pos_iff.mp some),
            List.take_of_length_le fits, List.drop_of_length_le fits, chunks_nil]
      | cons next later =>
          have here : piece.length = size := full piece List.mem_cons_self
          have some : piece ≠ [] := List.length_pos_iff.mp (here ▸ positive)
          have nonempty : (piece :: next :: later).flatten ≠ [] :=
            fun none => some (List.append_eq_nil_iff.mp none).1
          rw [chunks_cons positive nonempty, List.flatten_cons, ← here, List.take_left,
            List.drop_left, here]
          refine congrArg _ (ih (fun other member => full other ?_) rest)
          exact List.mem_cons_of_mem piece member

theorem pieces_chunks {size : Nat} (positive : 0 < size) (xs : List α) :
    Pieces size xs (chunks size xs) := by
  refine ⟨flatten_chunks positive xs, ?_, ?_⟩
  · induction xs using chunks_induction positive with
    | nil => simp
    | cons xs nonempty ih =>
        rw [chunks_cons positive nonempty]
        by_cases last : xs.drop size = []
        · simp [last]
        · rw [chunks_cons positive last, List.dropLast_cons_cons, ← chunks_cons positive last]
          intro piece member
          rcases List.mem_cons.mp member with rfl | later
          · have := mt List.drop_eq_nil_iff.mpr last
            rw [List.length_take]
            omega
          · exact ih piece later
  · intro piece last
    have member := List.mem_of_getLast? last
    exact ⟨List.length_pos_iff.mpr (ne_nil_of_mem_chunks positive member),
      length_le_of_mem_chunks positive member⟩

/-- There is one way to cut a list. -/
theorem pieces_iff {size : Nat} (positive : 0 < size) {xs : List α} {pieces : List (List α)} :
    Pieces size xs pieces ↔ pieces = chunks size xs := by
  constructor
  · exact Pieces.eq_chunks positive
  · rintro rfl
    exact pieces_chunks positive xs

/-- What a consumer sees of a feed: a batch, or that it has to wait. -/
inductive Sight (α : Type) where
  | batch (items : List α)
  | sleep (delay : Value)

namespace Tick

def sight : Tick α → Sight α
  | .batch items => .batch items
  | .pause delay _ => .sleep delay

def batch? : Tick α → Option (List α)
  | .batch items => some items
  | .pause _ _ => none

end Tick

namespace Feed

def after (f : Feed α) (before : List (Tick α)) : Feed α := ⟨before ++ f.ticks, f.fault⟩

theorem stopAt_zero (f : Feed α) : f.stopAt 0 = ⟨[], none⟩ := by
  simp only [stopAt, ticksThrough]

theorem stopAt_batch (f : Feed α) (b : List α) (n : Nat) :
    (f.after [.batch b]).stopAt (n + 1) = (f.stopAt n).after [.batch b] := by
  simp only [stopAt, after, List.singleton_append, ticksThrough]
  cases ticksThrough n f.ticks <;> rfl

theorem stopAt_pause (f : Feed α) (delay : Value) (e : Entry) (n : Nat) :
    (f.after [.pause delay e]).stopAt (n + 1) = (f.stopAt (n + 1)).after [.pause delay e] := by
  simp only [stopAt, after, List.singleton_append, ticksThrough]
  cases ticksThrough (n + 1) f.ticks <;> rfl

end Feed

def lead (delay : Binary64) (index : Nat) (e : Entry) : List (Tick α) :=
  if index = 0 ∨ delay.isPositive = false then [] else [.pause (.float delay) e]

theorem waits_float (delay : Binary64) : waits (.float delay) = delay.isPositive := by
  rw [waits, Value.float_greater_zero]

theorem spaced_cons (delay : Binary64) (total index : Nat) (b : List α) :
    ∃ e, ∀ bs, spaced (.float delay) total index (b :: bs) =
      ((spaced (.float delay) total (index + 1) bs).after [.batch b]).after (lead delay index e) := by
  obtain ⟨e, gap⟩ := gap_float (α := α) delay index total
  refine ⟨e, fun bs => ?_⟩
  rw [spaced, gap, waits_float]
  rfl

/-- A consumer who leaves at a batch sees the feed of the batches up to that one. -/
theorem stopAt_spaced (delay : Binary64) (total index k : Nat) (bs : List (List α)) :
    (spaced (.float delay) total index bs).stopAt k = spaced (.float delay) total index (bs.take k) := by
  induction bs generalizing index k with
  | nil => cases k <;> rfl
  | cons b bs ih =>
      cases k with
      | zero => exact Feed.stopAt_zero _
      | succ k =>
          obtain ⟨e, fed⟩ := spaced_cons delay total index b
          rw [List.take_succ_cons, fed, fed, ← ih, ← Feed.stopAt_batch]
          unfold lead
          split
          · rfl
          · exact Feed.stopAt_pause ..

theorem fault_spaced (delay : Binary64) (total index : Nat) (bs : List (List α)) :
    (spaced (.float delay) total index bs).fault = none := by
  induction bs generalizing index with
  | nil => rfl
  | cons b bs ih =>
      obtain ⟨e, fed⟩ := spaced_cons delay total index b
      rw [fed]
      exact ih (index + 1)

theorem batches_spaced (delay : Binary64) (total index : Nat) (bs : List (List α)) :
    (spaced (.float delay) total index bs).ticks.filterMap Tick.batch? = bs := by
  induction bs generalizing index with
  | nil => rfl
  | cons b bs ih =>
      obtain ⟨e, fed⟩ := spaced_cons delay total index b
      have none : (lead delay index e : List (Tick α)).filterMap Tick.batch? = [] := by
        unfold lead
        split <;> rfl
      rw [fed, Feed.after, List.filterMap_append, none]
      exact congrArg (b :: ·) (ih (index + 1))

def apart (delay : Binary64) (bs : List (List α)) : List (Sight α) :=
  if delay.isPositive then (bs.map .batch).intersperse (.sleep (.float delay)) else bs.map .batch

theorem apart_nil (delay : Binary64) : apart delay ([] : List (List α)) = [] := by
  unfold apart
  split <;> rfl

theorem apart_singleton (delay : Binary64) (b : List α) : apart delay [b] = [.batch b] := by
  unfold apart
  split <;> rfl

/-- Two batches are as far apart as the ticks before the second one make them. -/
theorem apart_cons_cons (delay : Binary64) (b c : List α) (bs : List (List α)) (e : Entry)
    (index : Nat) :
    apart delay (b :: c :: bs) =
      .batch b :: ((lead delay (index + 1) e).map Tick.sight ++ apart delay (c :: bs)) := by
  unfold apart lead
  cases delay.isPositive <;> rfl

theorem sights_later (delay : Binary64) (total index : Nat) (b : List α) (bs : List (List α)) :
    .batch b :: (spaced (.float delay) total (index + 1) bs).ticks.map Tick.sight =
      apart delay (b :: bs) := by
  induction bs generalizing index b with
  | nil => exact (apart_singleton delay b).symm
  | cons c bs ih =>
      obtain ⟨e, fed⟩ := spaced_cons delay total (index + 1) c
      rw [apart_cons_cons delay b c bs e index, ← ih (index + 1), fed, Feed.after, List.map_append]
      rfl

/-- A whole feed gives its batches, is seen as these batches apart, and has no fault. -/
theorem spaced_seen (delay : Binary64) (total : Nat) (bs : List (List α)) :
    ∃ ticks, spaced (.float delay) total 0 bs = ⟨ticks, none⟩ ∧
      ticks.filterMap Tick.batch? = bs ∧ ticks.map Tick.sight = apart delay bs := by
  refine ⟨_, congrArg (Feed.mk _) (fault_spaced delay total 0 bs), batches_spaced delay total 0 bs, ?_⟩
  cases bs with
  | nil => exact (apart_nil delay).symm
  | cons b bs =>
      obtain ⟨e, fed⟩ := spaced_cons delay total 0 b
      rw [fed, ← sights_later delay total 0 b bs]
      rfl

/-- What a consumer does on a client at each batch, up to the one that it fails at. -/
def handled (f : β → List α → Exchange β) : β → Client → List (List α) → List (List Event)
  | _, _, [] => []
  | held, c, b :: bs =>
    let r := (f held b).run c
    r.events :: match r.result with
      | .ok next => handled f next r.client bs
      | .error _ => []

def between (delay : Binary64) : List Event :=
  if delay.isPositive then [.slept (.float delay)] else []

theorem handled_cons (f : β → List α → Exchange β) (held : β) (c : Client) (b : List α)
    (bs : List (List α)) :
    ∃ later, handled f held c (b :: bs) = ((f held b).run c).events :: later := ⟨_, rfl⟩

/-- If all that is seen after the first batch are the others behind their gaps, the batches are seen with
that gap between each two. -/
theorem events_begun {f : β → List α → Exchange β} {k : β → Exchange β} {bs : List (List α)}
    {gap : List Event}
    (later : ∀ next c, ((k next).run c).events = (handled f next c bs).flatMap (gap ++ ·))
    (start : β) (b : List α) (c : Client) :
    (((f start b).bind k).run c).events = gap.intercalate (handled f start c (b :: bs)) := by
  rw [Exchange.events_bind, handled, intercalate_cons]
  cases ((f start b).run c).result with
  | ok next => exact congrArg (_ ++ ·) (later next _)
  | error fault => rfl

theorem events_later (f : β → List α → Exchange β) (delay : Binary64) (total index : Nat)
    (bs : List (List α)) (start : β) (c : Client) :
    (((spaced (.float delay) total (index + 1) bs).consume f start).run c).events =
      (handled f start c bs).flatMap (between delay ++ ·) := by
  induction bs generalizing index start c with
  | nil => rfl
  | cons b bs ih =>
      obtain ⟨e, fed⟩ := Account.consume_cons f start delay total (index + 1) b bs
      have begun := events_begun (ih (index + 1)) start b c
      obtain ⟨later, cons⟩ := handled_cons f start c b bs
      rw [cons, intercalate_cons] at begun
      rw [fed, waits_float, cons, List.flatMap_cons, List.append_assoc, ← begun, between]
      cases delay.isPositive <;> rfl

/-- Whatever a consumer does, it is done with each batch before the sleep for the next. -/
theorem events_consume (f : β → List α → Exchange β) (delay : Binary64) (total : Nat)
    (bs : List (List α)) (start : β) (c : Client) :
    (((spaced (.float delay) total 0 bs).consume f start).run c).events =
      (between delay).intercalate (handled f start c bs) := by
  cases bs with
  | nil => rfl
  | cons b bs =>
      obtain ⟨e, fed⟩ := Account.consume_cons f start delay total 0 b bs
      rw [fed, if_pos (.inl rfl)]
      exact events_begun (fun next c => events_later f delay total 0 bs next c) start b c

theorem split_refused (xs : List α) {size : Int} (small : size < 1) :
    split xs (.int size) = .error (refusal (.int size)) := by
  simp only [split, checkSize, Value.less_int, decide_eq_true small]
  rfl

theorem refusal_int (size : Int) : refusal (.int size) =
    if Text.isBrief size then .batchSize (toString size) else .longNumber := by
  have text : (Value.int size).text = toString size := String.ofList_toList
  unfold refusal
  cases brief : Text.isBrief size with
  | true => rw [Value.spell_of_brief (v := .int size) brief, text, if_pos rfl]
  | false => rw [Value.spell_of_long (v := .int size) brief, if_neg (by decide)]

theorem splitValue_arr (items : List Value) (size : Value) :
    splitValue (.arr items) size = split items size := rfl

/-- A size of one or more cuts a list in the only way there is. A consumer who leaves at the `k`-th batch
has seen so many pieces, or all, with a sleep between each two if the delay is above zero, and nothing
else. Whatever a consumer does with its batches, the sleeps stand between what it does with each two, up to
where it fails. A size below one is refused at the first step, before a batch or a sleep, and stands in the
refusal's words if it can be written. -/
theorem feed_partition (xs : List α) (size : Int) (delay : Binary64) (k : Nat)
    (f : β → List α → Exchange β) (start : β) (c : Client) :
    (1 ≤ size → ∃ pieces, (∀ others, Pieces size.toNat xs others ↔ others = pieces) ∧
      pieces.length = (xs.length + size.toNat - 1) / size.toNat ∧
      (∃ ticks, (feed (split xs (.int size)) (.float delay)).stopAt k = ⟨ticks, none⟩ ∧
        ticks.filterMap Tick.batch? =
          pieces.take (min k ((xs.length + size.toNat - 1) / size.toNat)) ∧
        ticks.map Tick.sight =
          apart delay (pieces.take (min k ((xs.length + size.toNat - 1) / size.toNat)))) ∧
      (((feed (split xs (.int size)) (.float delay)).consume f start).run c).events =
        (between delay).intercalate (handled f start c pieces)) ∧
    (size < 1 →
      (feed (split xs (.int size)) (.float delay)).stopAt (k + 1) =
        ⟨[], some (refusal (.int size))⟩ ∧
      (feed (split xs (.int size)) (.float delay)).stopAt 0 = ⟨[], none⟩ ∧
      (feed (split xs (.int size)) (.float delay)).consume f start = .fail (refusal (.int size)) ∧
      refusal (.int size) = if Text.isBrief size then .batchSize (toString size) else .longNumber) := by
  constructor
  · intro least
    have positive : 0 < size.toNat := by omega
    have count := length_chunks positive xs
    refine ⟨chunks size.toNat xs, fun others => pieces_iff positive, count, ?_, ?_⟩
    · obtain ⟨ticks, fed, batches, sights⟩ := spaced_seen delay (chunks size.toNat xs).length
        ((chunks size.toNat xs).take (min k ((xs.length + size.toNat - 1) / size.toNat)))
      refine ⟨ticks, ?_, batches, sights⟩
      rw [split_int xs least, feed, stopAt_spaced, ← fed, ← count, ← List.take_take,
        List.take_length]
    · rw [split_int xs least]
      exact events_consume f delay _ _ start c
  · intro small
    rw [split_refused xs small]
    exact ⟨rfl, rfl, rfl, refusal_int size⟩

/-- The consumer of the second feed here fails at its second batch. -/
theorem feed_partition_of_five :
    (1 : Int) ≤ 2 ∧ (0 : Int) < 1 ∧
      (∃ ticks,
        (feed (splitValue (.arr [.int 1, .int 2, .int 3, .int 4, .int 5]) (.int 2))
          (.float .half)).stopAt 2 = ⟨ticks, none⟩ ∧
        ticks.filterMap Tick.batch? = [[.int 1, .int 2], [.int 3, .int 4]] ∧
        ticks.map Tick.sight =
          [.batch [.int 1, .int 2], .sleep (.float .half), .batch [.int 3, .int 4]]) ∧
      (((feed (splitValue (.arr [.int 1, .int 2, .int 3, .int 4, .int 5]) (.int 2))
        (.float .half)).consume (fun first _ => if first then .done false else .fail .clientClosed)
          true).run default).events = [.slept (.float .half)] ∧
      (feed (splitValue (.arr []) (.int 0)) (.float .half)).stopAt 1 =
        ⟨[], some (.batchSize "0")⟩ := by
  have above : Binary64.half.isPositive = true := by decide +kernel
  obtain ⟨pieces, only, -, ⟨ticks, seen, batches, sights⟩, events⟩ :=
    (feed_partition [Value.int 1, .int 2, .int 3, .int 4, .int 5] 2 .half 2
      (fun first _ => if first then .done false else .fail .clientClosed) true default).1 (by decide)
  obtain rfl := (only [[.int 1, .int 2], [.int 3, .int 4], [.int 5]]).mp ⟨rfl, by simp, by simp⟩
  rw [apart, if_pos above] at sights
  rw [between, if_pos above] at events
  obtain ⟨refused, -, -, words⟩ := (feed_partition ([] : List Value) 0 .half 0 (fun _ _ => .done ()) ()
    default).2 (by decide)
  rw [words, if_pos (Text.isBrief_of_lt 1 (by decide) (by decide)), ← splitValue_arr] at refused
  exact ⟨by decide, by decide, ⟨ticks, seen, batches, sights⟩, events, refused⟩

end Batch
end DebridCache
