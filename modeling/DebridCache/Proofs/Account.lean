import DebridCache.Availability.Check
import DebridCache.Proofs.Batch
import DebridCache.Proofs.Wire.Address

/-!
The limits of an account as it is opened with a whole batch size and a delay in floating point, and the
batches in which it then asks about some hashes.
-/

namespace DebridCache

theorem Value.greater_eq_less (a b : Int) :
    (Value.int a).greater (.int b) = (Value.int b).less (.int a) := rfl

theorem Value.least_int (a b : Int) : (Value.int a).least (.int b) = .ok (.int (min a b)) := by
  rw [least, less_int]
  by_cases h : b < a
  · rw [decide_eq_true h, Int.min_eq_right (Int.le_of_lt h)]
    rfl
  · rw [decide_eq_false h, Int.min_eq_left (Int.not_lt.mp h)]
    rfl

theorem Value.greatest_int (a b : Int) : (Value.int a).greatest (.int b) = .ok (.int (max a b)) := by
  rw [greatest, greater_eq_less, less_int]
  by_cases h : a < b
  · rw [decide_eq_true h, Int.max_eq_right (Int.le_of_lt h)]
    rfl
  · rw [decide_eq_false h, Int.max_eq_left (Int.not_lt.mp h)]
    rfl

namespace Account

/-- The delay that is kept: one below the least gives way to it; not-a-number is below nothing. -/
def keptDelay (delay : Binary64) : Binary64 :=
  if delay.place.lt minBatchDelay.place then minBatchDelay else delay

def opened (p : Provider) (credential timeout : Value) (size : Int) (delay : Binary64)
    (agent : Value) : Account :=
  match p with
  | .realDebrid =>
      ⟨p, credential, timeout, .int (max 1 (min size maxBatchSize)), .float (keptDelay delay), .null⟩
  | .torbox => ⟨p, credential, timeout, .null, .float (.ofNat 0), .null⟩
  | .allDebrid => ⟨p, credential, timeout, .null, .float (.ofNat 0), agent⟩

theorem create_numbered (credential timeout agent : Value) (size : Int) {delay : Value} {place : Place}
    (number : delay.place? = some place) :
    create .realDebrid ⟨credential, timeout, .int size, delay, agent⟩ =
      .ok ⟨.realDebrid, credential, timeout, .int (max 1 (min size maxBatchSize)),
        if place.lt minBatchDelay.place then .float minBatchDelay else delay, .null⟩ := by
  have compared : (Value.float minBatchDelay).greater delay = .ok (place.lt minBatchDelay.place) := by
    rw [Value.greater, number]
    rfl
  have kept : delay.greatest (.float minBatchDelay) =
      .ok (if place.lt minBatchDelay.place then .float minBatchDelay else delay) := by
    rw [Value.greatest, compared]
    cases place.lt minBatchDelay.place <;> rfl
  simp only [create, Value.least_int, Value.greatest_int, kept, bind, Except.bind]
  rfl

theorem create_eq_opened (p : Provider) (credential timeout : Value) (size : Int)
    (delay : Binary64) (agent : Value) :
    create p ⟨credential, timeout, .int size, .float delay, agent⟩ =
      .ok (opened p credential timeout size delay agent) := by
  cases p with
  | torbox => rfl
  | allDebrid => rfl
  | realDebrid =>
      rw [create_numbered credential timeout agent size rfl, opened, keptDelay]
      split <;> rfl

def Cuts (a : Account) : Prop := a.batchSize = .null ∨ ∃ n : Int, 1 ≤ n ∧ a.batchSize = .int n

/-- Limits under which a check goes through its batches without a fault of its own. -/
structure Regular (a : Account) : Prop where
  size : a.Cuts
  delay : ∃ d, a.batchDelay = .float d
  limit : a.provider = .realDebrid → ∃ n : Int, n ≤ maxBatchSize ∧ a.batchSize = .int n

theorem opened_regular (p : Provider) (credential timeout : Value) (size : Int)
    (delay : Binary64) (agent : Value) :
    (opened p credential timeout size delay agent).Regular := by
  cases p with
  | realDebrid =>
      refine ⟨.inr ⟨_, Int.le_max_left 1 _, rfl⟩, ⟨_, rfl⟩, fun _ => ⟨_, ?_, rfl⟩⟩
      exact Int.max_le.mpr ⟨by decide, Int.min_le_right size maxBatchSize⟩
  | torbox => exact ⟨.inl rfl, ⟨_, rfl⟩, fun other => by cases other⟩
  | allDebrid => exact ⟨.inl rfl, ⟨_, rfl⟩, fun other => by cases other⟩

@[simp] theorem opened_provider (p : Provider) (credential timeout : Value) (size : Int)
    (delay : Binary64) (agent : Value) :
    (opened p credential timeout size delay agent).provider = p := by
  cases p <;> rfl

theorem checkHeader_authorization {a : Account} {key : String} (credential : a.credential = .str key)
    (ascii : ∀ c ∈ key.toList, c.toNat < 128) : Wire.checkHeader a.authorization = .ok () := by
  have fits : ∀ c ∈ ("Bearer " ++ key).toList, c.toNat < 128 := by
    intro c member
    rw [String.toList_append, List.mem_append] at member
    rcases member with fixed | own
    · have prefixed : ∀ c ∈ "Bearer ".toList, c.toNat < 128 := Wire.forall_of_all (by decide)
      exact prefixed c fixed
    · exact ascii c own
  unfold authorization
  rw [credential]
  split
  · rfl
  · exact if_pos (List.all_eq_true.mpr fun c member => decide_eq_true (fits c member))

theorem opened_credential (p : Provider) (credential timeout : Value) (size : Int)
    (delay : Binary64) (agent : Value) :
    (opened p credential timeout size delay agent).credential = credential := by
  cases p <;> rfl

/-- How many of so many hashes go into one request: all of them where there is no limit. -/
def stride (a : Account) (count : Nat) : Nat :=
  match a.batchSize with
  | .int n => n.toNat
  | _ => count

def batches (a : Account) (hashes : List String) : List (List String) :=
  Batch.chunks (a.stride hashes.length) hashes

theorem batches_whole {a : Account} (unlimited : a.batchSize = .null) {hashes : List String}
    (nonempty : hashes ≠ []) : a.batches hashes = [hashes] := by
  rw [batches, stride, unlimited]
  exact Batch.chunks_whole nonempty

theorem stride_pos {a : Account} (cuts : a.Cuts) {count : Nat} (some : 0 < count) :
    0 < a.stride count := by
  unfold stride
  rcases cuts with h | ⟨n, positive, h⟩
  · rw [h]
    exact some
  · rw [h]
    show 0 < n.toNat
    omega

theorem batches_single {a : Account} (cuts : a.Cuts) (h : String) : a.batches [h] = [[h]] := by
  have positive : [h].length ≤ a.stride [h].length := stride_pos cuts (Nat.succ_pos 0)
  rw [batches, Batch.chunks_cons positive (List.cons_ne_nil h []), List.take_of_length_le positive,
    List.drop_of_length_le positive, Batch.chunks_nil]

theorem flatten_batches {a : Account} (cuts : a.Cuts) (hashes : List String) :
    (a.batches hashes).flatten = hashes := by
  cases hashes with
  | nil => simp [batches]
  | cons h hs => exact Batch.flatten_chunks (stride_pos cuts (Nat.succ_pos _)) (h :: hs)

theorem subset_of_mem_batches {a : Account} (cuts : a.Cuts) {hashes b : List String}
    (member : b ∈ a.batches hashes) : b ⊆ hashes := by
  have part := List.sublist_flatten_of_mem member
  rw [flatten_batches cuts] at part
  exact part.subset

theorem ne_nil_of_mem_batches {a : Account} (cuts : a.Cuts) {hashes b : List String}
    (member : b ∈ a.batches hashes) : b ≠ [] := by
  cases hashes with
  | nil =>
      unfold batches at member
      rw [Batch.chunks_nil] at member
      cases member
  | cons h hs => exact Batch.ne_nil_of_mem_chunks (stride_pos cuts (Nat.succ_pos _)) member

theorem length_le_of_mem_batches {a : Account} (cuts : a.Cuts)
    (limit : ∃ n : Int, n ≤ maxBatchSize ∧ a.batchSize = .int n) {hashes b : List String}
    (member : b ∈ a.batches hashes) : b.length ≤ 40 := by
  cases hashes with
  | nil =>
      unfold batches at member
      rw [Batch.chunks_nil] at member
      cases member
  | cons h hs =>
      obtain ⟨n, fits, size⟩ := limit
      have stride : a.stride (hs.length + 1) = n.toNat := by
        unfold stride
        rw [size]
      have positive := stride_pos cuts (Nat.succ_pos hs.length)
      have short : b.length ≤ n.toNat := stride ▸ Batch.length_le_of_mem_chunks positive member
      have most : maxBatchSize = 40 := rfl
      omega

/-- The feed of a check is made of its batches and of pauses between them. -/
theorem feed_eq_spaced {a : Account} (cuts : a.Cuts) {hashes : List String}
    (some : hashes ≠ []) :
    Batch.feed (Batch.split hashes (a.sizeFor hashes.length)) a.batchDelay =
      Batch.spaced a.batchDelay (a.batches hashes).length 0 (a.batches hashes) := by
  have positive := List.length_pos_iff.mpr some
  unfold sizeFor batches stride
  rcases cuts with h | ⟨n, limit, h⟩
  · rw [h]
    show Batch.feed (Batch.split hashes (.int hashes.length)) _ = _
    rw [Batch.split_int hashes (by omega)]
    rfl
  · have nonzero : (Value.int n).truthy = true := by
      show decide (n ≠ 0) = true
      exact decide_eq_true (by omega)
    rw [h, Value.orElse, nonzero, if_pos rfl, Batch.split_int hashes limit]
    rfl

end Account
end DebridCache
