import Mathlib.Algebra.Order.Ring.Nat
import DebridCache.Value.Text

/-!
Values whose whole numbers can all be written. What is found inside such a value is of the kind again, and
its text is there to be had.
-/

namespace DebridCache

namespace Text

theorem isBrief_iff {n : Int} : isBrief n = true ↔ n.natAbs < 10 ^ mostDigits := by
  rw [isBrief, decide_eq_true_eq, Nat.pow_eq]

theorem isBrief_of_lt {n : Int} (digits : Nat) (few : digits ≤ mostDigits)
    (small : n.natAbs < 10 ^ digits) : isBrief n = true :=
  isBrief_iff.mpr (Nat.lt_of_lt_of_le small (Nat.pow_le_pow_right (by decide) few))

theorem isBrief_zero : isBrief 0 = true := isBrief_of_lt 0 (Nat.zero_le _) Nat.one_pos

/-- The least number that cannot be written. -/
theorem not_isBrief_pow : isBrief (10 ^ mostDigits) = false := by
  have same (m : Nat) : ¬ ((10 : Int) ^ m).natAbs < 10 ^ m := by
    rw [Int.natAbs_pow]
    exact Nat.lt_irrefl _
  exact Bool.eq_false_iff.mpr (mt isBrief_iff.mp (same mostDigits))

theorem digitsValue_lt {cs : List Char} (digits : ∀ c ∈ cs, isDigit c = true) :
    digitsValue cs < 10 ^ cs.length := by
  have folded (cs : List Char) (digits : ∀ c ∈ cs, isDigit c = true) (n : Nat) :
      cs.foldl (fun n c => n * 10 + (c.toNat - 48)) n < (n + 1) * 10 ^ cs.length := by
    induction cs generalizing n with
    | nil => simp
    | cons c cs ih =>
        have later := ih (fun d member => digits d (List.mem_cons_of_mem c member)) (n * 10 + (c.toNat - 48))
        have digit : c.toNat ≤ 57 := by
          have own := digits c List.mem_cons_self
          rw [isDigit, Bool.and_eq_true, decide_eq_true_eq, decide_eq_true_eq] at own
          exact own.2
        refine Nat.lt_of_lt_of_le later ?_
        rw [List.length_cons, Nat.pow_succ', ← Nat.mul_assoc]
        exact Nat.mul_le_mul_right _ (by omega)
  have all := folded cs digits 0
  rwa [Nat.zero_add, Nat.one_mul] at all

end Text

namespace Value

theorem areBrief_iff {vs : List Value} : areBrief vs = true ↔ ∀ v ∈ vs, v.isBrief = true := by
  induction vs with
  | nil => simp [areBrief]
  | cons v vs ih => simp [areBrief, ih]

theorem haveBrief_iff {ms : List (String × Value)} :
    haveBrief ms = true ↔ ∀ m ∈ ms, m.2.isBrief = true := by
  induction ms with
  | nil => simp [haveBrief]
  | cons m ms ih => simp [haveBrief, ih]

theorem isBrief_arr {vs : List Value} : (arr vs).isBrief = true ↔ ∀ v ∈ vs, v.isBrief = true := by
  rw [isBrief, areBrief_iff]

theorem isBrief_obj {ms : List (String × Value)} :
    (obj ms).isBrief = true ↔ ∀ m ∈ ms, m.2.isBrief = true := by
  rw [isBrief, haveBrief_iff]

theorem spell_of_brief {v : Value} (brief : v.isBrief = true) : v.spell = .ok v.text := if_pos brief

theorem spell_of_long {v : Value} (long : v.isBrief = false) : v.spell = .error .longNumber :=
  if_neg (by rw [long]; decide)

theorem brief_of_spell {v : Value} {s : String} (spelled : v.spell = .ok s) :
    v.isBrief = true ∧ s = v.text := by
  cases brief : v.isBrief with
  | true =>
      rw [spell_of_brief brief] at spelled
      exact ⟨rfl, (Except.ok.inj spelled).symm⟩
  | false =>
      rw [spell_of_long brief] at spelled
      cases spelled

theorem isBrief_memberOrNull {v : Value} (brief : v.isBrief = true) (key : String) :
    (v.memberOrNull key).isBrief = true := by
  cases v with
  | obj ms =>
      rw [memberOrNull]
      cases held : ms.lookup key with
      | none => rfl
      | some w =>
          obtain ⟨before, after, split, -⟩ := List.lookup_eq_some_iff.mp held
          exact isBrief_obj.mp brief (key, w) (split ▸ List.mem_append_right before List.mem_cons_self)
  | _ => rfl

theorem isBrief_ofMembers {ms : List (String × Value)} (brief : haveBrief ms = true) :
    (ofMembers ms).isBrief = true := by
  have put (key : String) (v : Value) (held : v.isBrief = true) (done : List (String × Value))
      (all : ∀ m ∈ done, m.2.isBrief = true) : ∀ m ∈ Table.put key v done, m.2.isBrief = true := by
    induction done with
    | nil =>
        intro m member
        cases List.mem_singleton.mp member
        exact held
    | cons e rest ih =>
        obtain ⟨own, later⟩ := List.forall_mem_cons.mp all
        unfold Table.put
        split
        · exact List.forall_mem_cons.mpr ⟨held, later⟩
        · exact List.forall_mem_cons.mpr ⟨own, ih later⟩
  have folded (ms : List (String × Value)) (each : ∀ m ∈ ms, m.2.isBrief = true)
      (done : List (String × Value)) (all : ∀ m ∈ done, m.2.isBrief = true) :
      ∀ m ∈ ms.foldl (fun done m => Table.put m.1 m.2 done) done, m.2.isBrief = true := by
    induction ms generalizing done with
    | nil => exact all
    | cons m ms ih =>
        obtain ⟨own, later⟩ := List.forall_mem_cons.mp each
        exact ih later _ (put m.1 m.2 own done all)
  exact isBrief_obj.mpr (folded ms (haveBrief_iff.mp brief) [] (fun m none => absurd none List.not_mem_nil))

end Value
end DebridCache
