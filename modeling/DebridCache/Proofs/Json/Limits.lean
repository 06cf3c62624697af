import Mathlib.Data.List.TakeDrop
import DebridCache.Json.Reader
import DebridCache.Proofs.Fault
import DebridCache.Proofs.Value.Brief

/-!
The limits under which documents are read. A whole number with too many digits is refused, so all that are
read can be written again; and brackets that open further ones than there is room for are refused as such.
-/

namespace DebridCache.Json

open Text

theorem isBrief_negated (negative : Bool) {n : Nat} (small : n < 10 ^ mostDigits) :
    Text.isBrief (negated negative n) = true := by
  refine isBrief_of_lt _ (Nat.le_refl _) ?_
  cases negative with
  | true => rwa [negated, if_pos rfl, Int.natAbs_neg, Int.natAbs_natCast]
  | false => rwa [negated, if_neg (by decide), Int.natAbs_natCast]

theorem digits_of_spanDigits {cs ds rest : List Char} (span : spanDigits cs = (ds, rest)) :
    ∀ d ∈ ds, isDigit d = true := by
  rw [spanDigits, List.span_eq_takeWhile_dropWhile] at span
  cases span
  exact fun d member => List.all_eq_true.mp List.all_takeWhile d member

theorem digits_of_wholePart? {cs ds rest : List Char} (part : wholePart? cs = some (ds, rest)) :
    ∀ d ∈ ds, isDigit d = true := by
  unfold wholePart? at part
  split at part
  · cases part
    intro d member
    rw [List.mem_singleton.mp member]
    decide
  · split at part
    · cases part
    · exact digits_of_spanDigits (Option.some.inj part)

theorem unsigned?_brief {negative : Bool} {cs rest : List Char} {v : Value}
    (found : unsigned? negative cs = some (v, rest)) : v.isBrief = true := by
  unfold unsigned? at found
  obtain ⟨⟨whole, after⟩, part, found⟩ := Option.bind_eq_some_iff.mp found
  dsimp only at found
  split at found
  · split at found
    · cases found
    · rename_i few
      cases found
      refine isBrief_negated negative ?_
      exact Nat.lt_of_lt_of_le (digitsValue_lt (digits_of_wholePart? part))
        (Nat.pow_le_pow_right (by decide) (Nat.le_of_not_lt few))
  · cases found
    rfl

theorem scalar?_brief {cs rest : List Char} {v : Value} (found : scalar? cs = some (v, rest)) :
    v.isBrief = true := by
  unfold scalar? at found
  split at found
  · rename_i word
    cases found
    obtain ⟨⟨w, u⟩, member, read⟩ := List.exists_of_findSome?_eq_some word
    obtain ⟨after, -, same⟩ := Option.map_eq_some_iff.mp read
    cases same
    have all : ∀ p ∈ words, p.2.isBrief = true := by
      intro p listed
      simp only [words, List.mem_cons, List.not_mem_nil, or_false] at listed
      rcases listed with rfl | rfl | rfl | rfl | rfl | rfl <;> rfl
    exact all (w, v) member
  · split at found <;> exact unsigned?_brief found

theorem ok_of_require {α : Type} {found : Option α} {a : α} (read : require found = .ok a) :
    found = some a := by
  cases found with
  | none => cases read
  | some b => exact congrArg some (Except.ok.inj read)

theorem ok_of_map {α β : Type} {e : Except Refusal α} {g : α → β} {b : β} (mapped : e.map g = .ok b) :
    ∃ a, e = .ok a ∧ g a = b := by
  cases e with
  | error refusal => cases mapped
  | ok a => exact ⟨a, rfl, Except.ok.inj mapped⟩

/-- All numbers of what is read with so much fuel can be written. -/
structure ReadsBrief (fuel : Nat) : Prop where
  value : ∀ room cs v rest, Json.value fuel room cs = .ok (v, rest) → v.isBrief = true
  items : ∀ room cs vs rest, Json.items fuel room cs = .ok (vs, rest) → Value.areBrief vs = true
  members : ∀ room cs ms rest, Json.members fuel room cs = .ok (ms, rest) → Value.haveBrief ms = true

section Step

variable {fuel room : Nat} {cs rest : List Char}

theorem ReadsBrief.value_step (brief : ReadsBrief fuel) {v : Value}
    (read : Json.value (fuel + 1) room cs = .ok (v, rest)) : v.isBrief = true := by
  unfold Json.value at read
  split at read
  · obtain ⟨found, -, same⟩ := ok_of_map read
    cases same
    rfl
  · split at read
    · cases read
    · split at read
      · cases read
        rfl
      · obtain ⟨found, listed, same⟩ := ok_of_map read
        cases same
        exact brief.items _ _ _ _ listed
  · split at read
    · cases read
    · split at read
      · cases read
        rfl
      · obtain ⟨found, listed, same⟩ := ok_of_map read
        cases same
        exact Value.isBrief_ofMembers (brief.members _ _ _ _ listed)
  · exact scalar?_brief (ok_of_require read)

theorem ReadsBrief.items_step (brief : ReadsBrief fuel) {vs : List Value}
    (read : Json.items (fuel + 1) room cs = .ok (vs, rest)) : Value.areBrief vs = true := by
  unfold Json.items at read
  split at read
  · cases read
  · rename_i first
    have own := brief.value _ _ _ _ first
    split at read
    · obtain ⟨found, listed, same⟩ := ok_of_map read
      cases same
      rw [Value.areBrief, own, brief.items _ _ _ _ listed]
      rfl
    · cases read
      rw [Value.areBrief, own]
      rfl
    · cases read

theorem ReadsBrief.members_step (brief : ReadsBrief fuel) {ms : List (String × Value)}
    (read : Json.members (fuel + 1) room cs = .ok (ms, rest)) : Value.haveBrief ms = true := by
  unfold Json.members at read
  -- What stands before the value of a member has no numbers in it.
  split at read
  · split at read
    · cases read
    · split at read
      · split at read
        · cases read
        · rename_i first
          have own := brief.value _ _ _ _ first
          split at read
          · obtain ⟨found, listed, same⟩ := ok_of_map read
            cases same
            rw [Value.haveBrief, own, brief.members _ _ _ _ listed]
            rfl
          · cases read
            rw [Value.haveBrief, own]
            rfl
          · cases read
      · cases read
  · cases read

end Step

theorem readsBrief (fuel : Nat) : ReadsBrief fuel := by
  induction fuel with
  | zero => exact ⟨nofun, nofun, nofun⟩
  | succ fuel ih =>
      exact ⟨fun _ _ _ _ => ih.value_step, fun _ _ _ _ => ih.items_step, fun _ _ _ _ => ih.members_step⟩

theorem read_brief {room : Nat} {bytes : List UInt8} {v : Value} (found : read room bytes = .ok v) :
    v.isBrief = true := by
  unfold read readText at found
  cases text : require (characters? bytes) with
  | error refusal =>
      rw [text] at found
      cases found
  | ok cs =>
      rw [text] at found
      change (value _ room (skip cs) >>= _) = _ at found
      cases first : value (2 * cs.length + 2) room (skip cs) with
      | error refusal =>
          rw [first] at found
          cases found
      | ok one =>
          rw [first] at found
          change (if (skip one.2).isEmpty then Except.ok one.1 else .error Refusal.malformed) = _ at found
          split at found
          · cases found
            exact (readsBrief _).value _ _ _ _ first
          · cases found

/-- With every bracket the room shrinks, until one is left that opens where there is none. -/
theorem value_deep {room fuel : Nat} (enough : 2 * room < fuel) (rest : List Char) :
    value fuel room (List.replicate (room + 1) '[' ++ rest) = .error .tooDeep := by
  induction room generalizing fuel with
  | zero =>
      obtain ⟨n, rfl⟩ : ∃ n, fuel = n + 1 := ⟨fuel - 1, by omega⟩
      rfl
  | succ room ih =>
      obtain ⟨n, rfl⟩ : ∃ n, fuel = n + 2 := ⟨fuel - 2, by omega⟩
      have inner := ih (show 2 * room < n by omega)
      show Except.map _ (items (n + 1) room (List.replicate (room + 1) '[' ++ rest)) = _
      rw [items, inner]
      rfl

theorem characters?_brackets (n : Nat) : characters? (List.replicate n 91) = some (List.replicate n '[') := by
  have bytes : Text.Utf8.decode? true (List.replicate n 91) = some (List.replicate n '[') := by
    have scanned : Text.Utf8.scan true .between (List.replicate n 91) = List.replicate n (some '[') := by
      induction n with
      | zero => rfl
      | succ n ih => exact congrArg (some '[' :: ·) ih
    have each : ∀ o ∈ List.replicate n (some '['), id o = pure (o.getD '[') := by
      intro o member
      rw [List.eq_of_mem_replicate member]
      rfl
    rw [Text.Utf8.decode?, scanned, mapM_pure_of_forall each, List.map_replicate]
    rfl
  have plain : detect (List.replicate n 91) = (.utf8, List.replicate n 91) := by
    match n with
    | 0 | 1 | 2 | 3 => rfl
    | n + 4 => rfl
  rw [characters?, plain]
  exact bytes

/-- Brackets of a document that open one in another, more of them than there is room for, are refused. -/
theorem read_deep {room n : Nat} (deep : room < n) : read room (List.replicate n 91) = .error .tooDeep := by
  obtain ⟨more, rfl⟩ : ∃ more, n = room + 1 + more := ⟨n - (room + 1), by omega⟩
  have start : skip (List.replicate (room + 1 + more) '[') = List.replicate (room + 1 + more) '[' := by
    rw [Nat.add_right_comm]
    rfl
  have refused : value (2 * (room + 1 + more) + 2) room
      (List.replicate (room + 1) '[' ++ List.replicate more '[') = .error .tooDeep :=
    value_deep (by omega) _
  rw [List.replicate_append_replicate] at refused
  rw [read, characters?_brackets]
  show readText room _ = _
  rw [readText, start, List.length_replicate, refused]
  rfl

end DebridCache.Json
