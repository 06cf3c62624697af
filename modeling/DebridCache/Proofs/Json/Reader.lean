import Mathlib.Tactic.SplitIfs
import DebridCache.Json.Reader
import DebridCache.Json.Writer

/-!
Reading what was written: strings with whatever characters, escaped or not, and the documents made of them.
-/

namespace DebridCache.Json

open Text

def IsOrdinary (c : Char) : Prop := 0x20 ≤ c.toNat ∧ c ≠ '"' ∧ c ≠ '\\'

instance : DecidablePred IsOrdinary := fun c =>
  inferInstanceAs (Decidable (0x20 ≤ c.toNat ∧ c ≠ '"' ∧ c ≠ '\\'))

theorem char_ordinary {c : Char} (ordinary : IsOrdinary c) : Style.compact.char c = [c] := by
  obtain ⟨printable, quote, backslash⟩ := ordinary
  have below {d : Char} (control : d.toNat < 0x20) : c ≠ d := by
    rintro rfl
    exact absurd printable (Nat.not_le_of_lt control)
  unfold Style.char
  rw [if_neg quote, if_neg backslash, if_neg (below (by decide)),
    if_neg (below (by decide)), if_neg (below (by decide)), if_neg (below (by decide)),
    if_neg (below (by decide)), if_neg (Nat.not_lt.mpr printable)]
  exact if_neg fun escaped => by cases escaped.1

theorem units?_ordinary {c : Char} (ordinary : IsOrdinary c) (cs : List Char) :
    units? (c :: cs) = (units? cs).map fun found => (c.toNat :: found.1, found.2) := by
  obtain ⟨printable, quote, backslash⟩ := ordinary
  have stays : ¬ (c.toNat < 0x20 ∨ c = '\\') := by
    rintro (control | same)
    · exact absurd printable (Nat.not_le_of_lt control)
    · exact backslash same
  rw [units?.eq_def]
  split
  · simp_all
  · rename_i rest same
    exact absurd (List.cons.inj same).1 quote
  · rename_i same
    exact absurd (List.cons.inj same).1 backslash
  · rename_i same
    exact absurd (List.cons.inj same).1 backslash
  · rename_i d ds _ _ same
    obtain ⟨rfl, rfl⟩ := List.cons.inj same
    rw [if_neg stays]

theorem units?_short {mark c : Char} (short : escape? mark = some c) (cs : List Char) :
    units? ('\\' :: mark :: cs) = (units? cs).map fun found => (c.toNat :: found.1, found.2) := by
  have other : mark ≠ 'u' := by
    rintro rfl
    cases short
  rw [units?.eq_def]
  split
  · simp_all
  · simp_all
  · simp_all
  · rename_i d ds _ same
    obtain ⟨rfl, rfl⟩ : mark = d ∧ cs = ds := by simpa using same
    rw [short]
    cases units? cs <;> rfl
  · rename_i alone same
    obtain ⟨rfl, rfl⟩ := List.cons.inj same
    exact absurd rfl (alone mark cs rfl)

theorem units?_unit {n : Nat} (control : n < 0x20) (cs : List Char) :
    units? (escapedUnit n ++ cs) = (units? cs).map fun found => (n :: found.1, found.2) := by
  have hex : ∀ n : Fin 0x20, Value.hex 4 n = ['0', '0', Nat.digitChar (n / 16), Nat.digitChar (n % 16)] := by
    decide
  have digit : ∀ d : Fin 16, hexDigit? (Nat.digitChar d) = some d.val := by decide
  have written : escapedUnit n =
      ['\\', 'u', '0', '0', Nat.digitChar (n / 16), Nat.digitChar (n % 16)] :=
    congrArg (fun digits => '\\' :: 'u' :: digits) (hex ⟨n, control⟩)
  have high : hexDigit? (Nat.digitChar (n / 16)) = some (n / 16) := digit ⟨n / 16, by omega⟩
  have low : hexDigit? (Nat.digitChar (n % 16)) = some (n % 16) := digit ⟨n % 16, by omega⟩
  have zero : hexDigit? '0' = some 0 := rfl
  have value : n / 16 * 16 + n % 16 = n := by omega
  rw [written]
  simp only [List.cons_append, List.nil_append, units?, zero, high, low]
  cases units? cs with
  | none => rfl
  | some found => simp [value]

theorem units?_char (c : Char) (cs : List Char) :
    units? (Style.compact.char c ++ cs) =
      (units? cs).map fun found => (c.toNat :: found.1, found.2) := by
  by_cases ordinary : IsOrdinary c
  · rw [char_ordinary ordinary]
    exact units?_ordinary ordinary cs
  · unfold Style.char
    split_ifs with quote backslash line back tab bell page control high
    · exact units?_short (by rw [quote]; rfl) cs
    · exact units?_short (by rw [backslash]; rfl) cs
    · exact units?_short (by rw [line]; rfl) cs
    · exact units?_short (by rw [back]; rfl) cs
    · exact units?_short (by rw [tab]; rfl) cs
    · exact units?_short (by rw [bell]; rfl) cs
    · exact units?_short (by rw [page]; rfl) cs
    · exact units?_unit control cs
    · cases high.1
    · exact absurd ⟨Nat.le_of_not_lt control, quote, backslash⟩ ordinary

theorem units?_written (cs rest : List Char) :
    units? (cs.flatMap Style.compact.char ++ '"' :: rest) = some (cs.map Char.toNat, rest) := by
  induction cs with
  | nil => rfl
  | cons c cs ih =>
      rw [List.flatMap_cons, List.append_assoc, units?_char, ih]
      rfl

theorem joinSurrogates_chars (cs : List Char) :
    joinSurrogates (cs.map Char.toNat) = cs.map Char.toNat := by
  induction cs with
  | nil => rfl
  | cons c cs ih =>
      cases cs with
      | nil => rfl
      | cons d ds =>
          have alone : ¬ (isHighSurrogate c.toNat && isLowSurrogate d.toNat) = true := by
            have valid : c.toNat < 0xD800 ∨ (0xDFFF < c.toNat ∧ c.toNat < 0x110000) := c.valid
            simp only [isHighSurrogate, Bool.and_eq_true, decide_eq_true_eq]
            omega
          rw [List.map_cons, List.map_cons, joinSurrogates, if_neg alone, ← List.map_cons, ih]

/-- A string is read back from what was written of it after the opening quote. -/
theorem string?_written (s : String) (rest : List Char) :
    string? (s.toList.flatMap Style.compact.char ++ '"' :: rest) = some (s, rest) := by
  have back : (s.toList.map Char.toNat).map Utf8.charOf = s.toList := by
    rw [List.map_map]
    refine (List.map_congr_left fun c _ => ?_).trans (List.map_id _)
    exact (if_pos c.valid).trans c.ofNat_toNat
  have text : String.ofList ((joinSurrogates (s.toList.map Char.toNat)).map Utf8.charOf) = s := by
    rw [joinSurrogates_chars, back, String.ofList_toList]
  rw [string?, units?_written]
  exact congrArg (fun t => some (t, rest)) text

theorem string_append (s : String) (rest : List Char) : Style.compact.string s ++ rest =
    '"' :: (s.toList.flatMap Style.compact.char ++ '"' :: rest) := by
  simp [Style.string]

theorem value_string (s : String) (fuel room : Nat) (rest : List Char) :
    value (fuel + 1) room (Style.compact.string s ++ rest) = .ok (.str s, rest) := by
  rw [string_append, value, string?_written]
  rfl

theorem items_strings (h : String) (hs : List String) {fuel : Nat} (enough : hs.length + 2 ≤ fuel)
    (room : Nat) (rest : List Char) :
    items fuel room (Style.compact.string h ++ (Style.compact.items (hs.map .str) ++ rest)) =
      .ok ((h :: hs).map .str, rest) := by
  induction hs generalizing h fuel with
  | nil =>
      obtain ⟨n, rfl⟩ : ∃ n, fuel = n + 2 := ⟨fuel - 2, by omega⟩
      rw [items, value_string]
      rfl
  | cons g gs ih =>
      obtain ⟨n, rfl⟩ : ∃ n, fuel = n + 2 := ⟨fuel - 2, by omega⟩
      have left : gs.length + 2 ≤ n + 1 := by
        rw [List.length_cons] at enough
        omega
      have later := ih g left
      have written : Style.compact.items ((g :: gs).map .str) ++ rest =
          ',' :: (Style.compact.string g ++ (Style.compact.items (gs.map .str) ++ rest)) := by
        rw [List.map_cons, Style.items, List.append_assoc, List.append_assoc]
        rfl
      have next : skip (Style.compact.string g ++ (Style.compact.items (gs.map .str) ++ rest)) =
          Style.compact.string g ++ (Style.compact.items (gs.map .str) ++ rest) := rfl
      rw [items, value_string, written]
      show (items (n + 1) room (skip _)).map _ = _
      rw [next, later]
      rfl

theorem value_strings (h : String) (hs : List String) {fuel : Nat} (enough : hs.length + 2 ≤ fuel)
    (room : Nat) (rest : List Char) :
    value (fuel + 1) (room + 1) (Style.compact.value (.arr ((h :: hs).map .str)) ++ rest) =
      .ok (.arr ((h :: hs).map .str), rest) := by
  have written : Style.compact.value (.arr ((h :: hs).map .str)) ++ rest =
      '[' :: (Style.compact.string h ++ (Style.compact.items (hs.map .str) ++ rest)) := by
    rw [List.map_cons, Style.value, List.cons_append, List.append_assoc]
    rfl
  rw [written]
  show (items fuel room (Style.compact.string h ++ (Style.compact.items (hs.map .str) ++ rest))).map
    (fun found => (Value.arr found.1, found.2)) = _
  rw [items_strings h hs enough room rest]
  rfl

theorem length_items (hs : List String) :
    hs.length ≤ (Style.compact.items (hs.map .str)).length := by
  induction hs with
  | nil => exact Nat.zero_le _
  | cons h hs ih =>
      rw [List.map_cons, Style.items, List.length_append, List.length_append, List.length_cons]
      have comma : Style.compact.betweenItems.toList.length = 1 := rfl
      omega

theorem length_strings (h : String) (hs : List String) :
    hs.length ≤ (Style.compact.value (.arr ((h :: hs).map .str))).length := by
  have items := length_items hs
  rw [List.map_cons, Style.value, List.length_cons, List.length_append]
  omega

theorem value_true (fuel room : Nat) (rest : List Char) :
    value (fuel + 1) room (Style.compact.value (.bool true) ++ rest) = .ok (.bool true, rest) := by
  have word : word? ('t' :: 'r' :: 'u' :: 'e' :: rest) = some (.bool true, rest) := rfl
  show require (scalar? ('t' :: 'r' :: 'u' :: 'e' :: rest)) = _
  unfold scalar?
  rw [word]
  rfl

theorem members_cons (key : String) {fuel room : Nat} {cs rest after : List Char} {v : Value}
    {ms : List (String × Value)} (start : skip cs = cs) (next : skip rest = rest)
    (read : value fuel room cs = .ok (v, ',' :: rest)) (later : members fuel room rest = .ok (ms, after)) :
    members (fuel + 1) room (Style.compact.string key ++ ':' :: cs) = .ok ((key, v) :: ms, after) := by
  rw [string_append, members, string?_written]
  have colon : skip (':' :: cs) = ':' :: cs := rfl
  have comma : skip (',' :: rest) = ',' :: rest := rfl
  simp only [colon, start, read, comma, next, later, Except.map]

theorem members_last (key : String) {fuel room : Nat} {cs rest : List Char} {v : Value}
    (start : skip cs = cs) (read : value fuel room cs = .ok (v, '\x7d' :: rest)) :
    members (fuel + 1) room (Style.compact.string key ++ ':' :: cs) = .ok ([(key, v)], rest) := by
  rw [string_append, members, string?_written]
  have colon : skip (':' :: cs) = ':' :: cs := rfl
  have brace : skip ('\x7d' :: rest) = '\x7d' :: rest := rfl
  simp only [colon, start, read, brace]

theorem value_members {fuel room : Nat} {key : String} {cs rest : List Char}
    {ms : List (String × Value)}
    (found : members fuel room (Style.compact.string key ++ cs) = .ok (ms, rest)) :
    value (fuel + 1) (room + 1) ('\x7b' :: (Style.compact.string key ++ cs)) =
      .ok (.ofMembers ms, rest) := by
  have read := congrArg (Except.map fun (x : List (String × Value) × List Char) =>
    (Value.ofMembers x.1, x.2)) found
  exact read

end DebridCache.Json
