import DebridCache.Json.Reader
import DebridCache.Proofs.Text.Utf8
import DebridCache.Proofs.Wire.Address

/-!
Forms read back. The bytes that a form spells are those of the text it was made from, and its marks for
pairs and names do not occur inside an encoded part.
-/

namespace DebridCache.Wire

open Text

def formBytes : List Char → List UInt8
  | '%' :: high :: low :: rest =>
    UInt8.ofNat (((Json.hexDigit? high).getD 0) * 16 + (Json.hexDigit? low).getD 0) ::
      formBytes rest
  | '+' :: rest => 32 :: formBytes rest
  | c :: rest => String.utf8EncodeChar c ++ formBytes rest
  | [] => []

def formDecode (cs : List Char) : String := String.ofList (Utf8.decodeLossy (formBytes cs))

def formField? (name : String) (form : List Char) : Option String :=
  (form.splitOn '&').findSome? fun pair =>
    match cut '=' pair with
    | (n, some v) => if formDecode n = name then some (formDecode v) else none
    | (_, none) => none

theorem hexDigit?_upperHexDigit (n : Nat) (digit : n < 16) :
    Json.hexDigit? (upperHexDigit n) = some n := by
  have all : ∀ n : Fin 16, Json.hexDigit? (upperHexDigit n) = some n.val := by decide
  exact all ⟨n, digit⟩

theorem formBytes_percentByte (b : UInt8) (rest : List Char) :
    formBytes (percentByte b ++ rest) = b :: formBytes rest := by
  have bound := b.toNat_lt
  have high := hexDigit?_upperHexDigit (b.toNat / 16) (by omega)
  have low := hexDigit?_upperHexDigit (b.toNat % 16) (by omega)
  show UInt8.ofNat (((Json.hexDigit? (upperHexDigit (b.toNat / 16))).getD 0) * 16 +
    (Json.hexDigit? (upperHexDigit (b.toNat % 16))).getD 0) :: formBytes rest = b :: formBytes rest
  have sum : b.toNat / 16 * 16 + b.toNat % 16 = b.toNat := by omega
  rw [high, low, Option.getD_some, Option.getD_some, sum, UInt8.ofNat_toNat]

theorem formBytes_percentBytes (bs : List UInt8) (rest : List Char) :
    formBytes (bs.flatMap percentByte ++ rest) = bs ++ formBytes rest := by
  induction bs with
  | nil => rfl
  | cons b bs ih =>
      rw [List.flatMap_cons, List.append_assoc, formBytes_percentByte, ih]
      rfl

theorem formBytes_plain {c : Char} (percent : c ≠ '%') (plus : c ≠ '+') (rest : List Char) :
    formBytes (c :: rest) = String.utf8EncodeChar c ++ formBytes rest := by
  rw [formBytes.eq_def]
  split
  · simp_all
  · simp_all
  · simp_all
  · simp_all

theorem formBytes_formChar (c : Char) (rest : List Char) :
    formBytes (formChar c ++ rest) = String.utf8EncodeChar c ++ formBytes rest := by
  unfold formChar
  by_cases unreserved : isUnreserved c = true
  · rw [if_pos unreserved]
    apply formBytes_plain
    · rintro rfl
      revert unreserved
      decide
    · rintro rfl
      revert unreserved
      decide
  · rw [if_neg unreserved]
    by_cases space : c = ' '
    · rw [if_pos space, space]
      rfl
    · rw [if_neg space]
      exact formBytes_percentBytes (String.utf8EncodeChar c) rest

theorem formBytes_formText (s : String) : formBytes (formText s) = Utf8.encode s.toList := by
  unfold formText Utf8.encode
  induction s.toList with
  | nil => rfl
  | cons c cs ih => rw [List.flatMap_cons, formBytes_formChar, List.flatMap_cons, ih]

theorem formDecode_formText (s : String) : formDecode (formText s) = s := by
  rw [formDecode, formBytes_formText, Utf8.decodeLossy_encode, String.ofList_toList]

theorem formText_unreserved {s : String} (plain : ∀ c ∈ s.toList, isUnreserved c = true) :
    formText s = s.toList := by
  unfold formText
  generalize s.toList = cs at plain ⊢
  induction cs with
  | nil => rfl
  | cons c cs ih =>
      have same : formChar c = [c] := if_pos (plain c List.mem_cons_self)
      rw [List.flatMap_cons, same, ih fun d later => plain d (List.mem_cons_of_mem c later)]
      rfl

/-- No character is encoded as nothing, so an encoded text is never the shorter one. -/
theorem length_le_formText (s : String) : s.length ≤ (formText s).length := by
  have each (c : Char) : 1 ≤ (formChar c).length := by
    have bytes : 1 ≤ (String.utf8EncodeChar c).length := by
      rw [String.length_utf8EncodeChar]
      exact c.utf8Size_pos
    unfold formChar
    split
    · exact Nat.le_refl 1
    · split
      · exact Nat.le_refl 1
      · have three : (fun b => (percentByte b).length) = fun _ => 3 := rfl
        rw [percentChar, List.length_flatMap, three, List.map_const', List.sum_replicate_nat]
        omega
  rw [← String.length_toList, formText]
  induction s.toList with
  | nil => exact Nat.le_refl 0
  | cons c cs ih =>
      have first := each c
      rw [List.flatMap_cons, List.length_append, List.length_cons]
      omega

theorem formText_chars {s : String} {d : Char} (member : d ∈ formText s) :
    isUnreserved d = true ∨ d = '+' ∨ d = '%' := by
  have marks : ∀ d ∈ percentMarks, isUnreserved d = true ∨ d = '+' ∨ d = '%' :=
    forall_of_all (by decide)
  unfold formText at member
  obtain ⟨c, -, member⟩ := List.mem_flatMap.mp member
  unfold formChar at member
  by_cases unreserved : isUnreserved c = true
  · rw [if_pos unreserved] at member
    rw [List.mem_singleton.mp member]
    exact .inl unreserved
  · rw [if_neg unreserved] at member
    by_cases space : c = ' '
    · rw [if_pos space] at member
      exact .inr (.inl (List.mem_singleton.mp member))
    · rw [if_neg space] at member
      exact marks d (mem_percentChar member)

theorem not_mem_formText {mark : Char} (outside : isUnreserved mark = false) (plus : mark ≠ '+')
    (percent : mark ≠ '%') (s : String) : mark ∉ formText s := by
  intro member
  rcases formText_chars member with unreserved | same | same
  · rw [outside] at unreserved
    cases unreserved
  · exact plus same
  · exact percent same

theorem cut_append {mark : Char} {before : List Char} (absent : mark ∉ before)
    (after : List Char) : cut mark (before ++ mark :: after) = (before, some after) := by
  induction before with
  | nil => exact if_pos rfl
  | cons c cs ih =>
      have other : c ≠ mark := fun same => absent (same ▸ List.mem_cons_self)
      rw [List.cons_append, cut, if_neg other, ih fun later => absent (List.mem_cons_of_mem c later)]

theorem formField?_single (name value : String) :
    formField? name (encodeFields [(name, .str value)]) = some value := by
  have encoded : encodeFields [(name, .str value)] = formText name ++ '=' :: formText value := rfl
  have alone : '&' ∉ formText name ++ '=' :: formText value := by
    intro member
    rcases List.mem_append.mp member with first | member
    · exact not_mem_formText (by decide) (by decide) (by decide) name first
    · rcases List.mem_cons.mp member with same | last
      · revert same
        decide
      · exact not_mem_formText (by decide) (by decide) (by decide) value last
  have unequal : '=' ∉ formText name := not_mem_formText (by decide) (by decide) (by decide) name
  have pair := cut_append unequal (formText value)
  rw [encoded, formField?, List.splitOn_eq_singleton alone, List.findSome?_cons, pair]
  simp only [formDecode_formText, if_true]

end DebridCache.Wire
