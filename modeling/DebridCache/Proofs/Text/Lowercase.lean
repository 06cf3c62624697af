import Mathlib.Data.List.DropRight
import DebridCache.Text.Blank
import DebridCache.Text.Lowercase

/-!
Lowercase text stays as it is when it is lowered again, although one character can become two and a sigma
looks at its neighbours: no character of the outcome is lowered any further. Nor is any of them blank that
was not, so text without blanks at its ends has none there in lowercase.
-/

namespace DebridCache.Text

namespace CaseSpan

/-- No point to which one span lowers is lowered by the other: the images lie below its points, above them,
or between them. -/
def misses (s t : CaseSpan) : Bool :=
  s.image + (s.last - s.first) < t.first || t.last < s.image ||
    t.step == 2 && (s.step == 2 || s.first == s.last) && s.image % 2 != t.first % 2

/-- The points to which a span lowers are characters, none of them blank and none a dotted capital I. -/
def isProper (s : CaseSpan) : Bool :=
  let top := s.image + (s.last - s.first)
  (top < 0xD800 || 0xDFFF < s.image && top < 0x110000) && (top < 0x130 || 0x130 < s.image) &&
    blankSpans.all fun b => top < b.1 || b.2 < s.image

theorem misses_of_mem {s t : CaseSpan} (own : s ∈ caseSpans) (other : t ∈ caseSpans) :
    s.misses t = true := by
  have all : (caseSpans.all fun s => caseSpans.all s.misses) = true := by decide +kernel
  exact List.all_eq_true.mp (List.all_eq_true.mp all s own) t other

theorem isProper_of_mem {s : CaseSpan} (own : s ∈ caseSpans) : s.isProper = true := by
  have all : caseSpans.all isProper = true := by decide +kernel
  exact List.all_eq_true.mp all s own

variable {s t : CaseSpan} {point : Nat}

theorem not_holds_image (apart : s.misses t = true) (own : s.holds point = true) :
    t.holds (s.image + (point - s.first)) = false := by
  obtain ⟨first, last, step, image⟩ := t
  simp only [misses, holds, Bool.or_eq_true, Bool.and_eq_true, decide_eq_true_eq, beq_iff_eq,
    bne_iff_ne, ne_eq] at apart own
  rw [← Bool.not_eq_true]
  simp only [holds, Bool.and_eq_true, decide_eq_true_eq, beq_iff_eq]
  rintro ⟨⟨above, below⟩, stepped⟩
  rcases apart with (low | high) | ⟨⟨rfl, even⟩, odd⟩
  · omega
  · omega
  · rcases even with two | single
    · rw [two] at own
      omega
    · omega

theorem valid_image (proper : s.isProper = true) (own : s.holds point = true) :
    (s.image + (point - s.first)).isValidChar := by
  simp only [isProper, holds, Bool.or_eq_true, Bool.and_eq_true, decide_eq_true_eq] at proper own
  show _ < 0xD800 ∨ 0xDFFF < _ ∧ _ < 0x110000
  omega

theorem image_ne_dotted (proper : s.isProper = true) (own : s.holds point = true) :
    s.image + (point - s.first) ≠ 0x130 := by
  simp only [isProper, holds, Bool.or_eq_true, Bool.and_eq_true, decide_eq_true_eq] at proper own
  omega

theorem image_not_blank (proper : s.isProper = true) (own : s.holds point = true) :
    inSpans blankSpans (s.image + (point - s.first)) = false := by
  simp only [isProper, holds, Bool.or_eq_true, Bool.and_eq_true, decide_eq_true_eq,
    List.all_eq_true] at proper own
  simp only [inSpans, List.any_eq_false, Bool.and_eq_true, decide_eq_true_eq]
  intro b member inside
  have outside := proper.2 b member
  omega

end CaseSpan

/-- A point is lowered by the first span that holds it, and stays where none does. -/
theorem lowerPoint_cases (point : Nat) :
    lowerPoint point = point ∨
      ∃ s ∈ caseSpans, s.holds point = true ∧ lowerPoint point = s.image + (point - s.first) := by
  unfold lowerPoint
  cases found : caseSpans.find? (·.holds point) with
  | none => exact .inl rfl
  | some s =>
      have held := List.find?_some found
      exact .inr ⟨s, List.mem_of_find?_eq_some found, held, rfl⟩

theorem lowerPoint_of_unheld {point : Nat} (unheld : ∀ s ∈ caseSpans, s.holds point = false) :
    lowerPoint point = point := by
  have none : caseSpans.find? (·.holds point) = none := by
    simpa [List.find?_eq_none] using unheld
  simp only [lowerPoint, none]

structure IsLowered (c : Char) : Prop where
  sigma : c ≠ '\u03a3'
  dotted : c ≠ '\u0130'
  point : lowerPoint c.toNat = c.toNat

theorem toNat_ofNat_of_valid {point : Nat} (valid : point.isValidChar) :
    (Char.ofNat point).toNat = point := by
  rw [Char.ofNat, dif_pos valid]
  rfl

theorem lowerChar_of_isLowered {c : Char} (low : IsLowered c) (before after : List Char) :
    lowerChar before c after = [c] := by
  rw [lowerChar, if_neg low.sigma, if_neg low.dotted, low.point, Char.ofNat_toNat]

/-- A point that some span lowers is lowered to a character that none of them lowers. -/
theorem isLowered_image {s : CaseSpan} (own : s ∈ caseSpans) {point : Nat}
    (held : s.holds point = true) : IsLowered (Char.ofNat (s.image + (point - s.first))) := by
  have proper := CaseSpan.isProper_of_mem own
  have place := toNat_ofNat_of_valid (CaseSpan.valid_image proper held)
  have unheld : ∀ t ∈ caseSpans, t.holds (s.image + (point - s.first)) = false := fun t other =>
    CaseSpan.not_holds_image (CaseSpan.misses_of_mem own other) held
  have kept := lowerPoint_of_unheld unheld
  constructor
  · intro same
    rw [show s.image + (point - s.first) = 0x3A3 from place.symm.trans (congrArg Char.toNat same)] at kept
    exact absurd kept (by decide +kernel)
  · intro same
    exact CaseSpan.image_ne_dotted proper held (place.symm.trans (congrArg Char.toNat same))
  · rw [place]
    exact kept

theorem isLowered_of_mem {before after : List Char} {c d : Char} (member : d ∈ lowerChar before c after) :
    IsLowered d := by
  have fixed : ∀ d ∈ ['\u03c2', '\u03c3', 'i', '\u0307'], IsLowered d := by
    intro d member
    simp only [List.mem_cons, List.not_mem_nil, or_false] at member
    rcases member with rfl | rfl | rfl | rfl <;> exact ⟨by decide, by decide, by decide +kernel⟩
  unfold lowerChar at member
  by_cases sigma : c = '\u03a3'
  · rw [if_pos sigma, List.mem_singleton] at member
    apply fixed d
    rw [member]
    split <;> simp
  · rw [if_neg sigma] at member
    by_cases dotted : c = '\u0130'
    · rw [if_pos dotted] at member
      exact fixed d (List.mem_append_right ['\u03c2', '\u03c3'] member)
    · rw [if_neg dotted, List.mem_singleton] at member
      rcases lowerPoint_cases c.toNat with same | ⟨s, own, held, image⟩
      · rw [same, Char.ofNat_toNat] at member
        rw [member]
        exact ⟨sigma, dotted, same⟩
      · rw [member, image]
        exact isLowered_image own held

theorem not_blank_of_mem {before after : List Char} {c d : Char} (solid : isBlank c = false)
    (member : d ∈ lowerChar before c after) : isBlank d = false := by
  unfold lowerChar at member
  by_cases sigma : c = '\u03a3'
  · rw [if_pos sigma, List.mem_singleton] at member
    rw [member]
    split <;> decide
  · rw [if_neg sigma] at member
    by_cases dotted : c = '\u0130'
    · rw [if_pos dotted] at member
      simp only [List.mem_cons, List.not_mem_nil, or_false] at member
      rcases member with rfl | rfl <;> decide
    · rw [if_neg dotted, List.mem_singleton] at member
      rcases lowerPoint_cases c.toNat with same | ⟨s, own, held, image⟩
      · rw [same, Char.ofNat_toNat] at member
        rw [member]
        exact solid
      · have proper := CaseSpan.isProper_of_mem own
        rw [member, image, isBlank, toNat_ofNat_of_valid (CaseSpan.valid_image proper held)]
        exact CaseSpan.image_not_blank proper held

theorem lowerChar_ne_nil (before : List Char) (c : Char) (after : List Char) :
    lowerChar before c after ≠ [] := by
  unfold lowerChar
  split
  · simp
  · split <;> simp

theorem lowerFrom_of_isLowered {cs : List Char} (low : ∀ c ∈ cs, IsLowered c) (before : List Char) :
    lowerFrom before cs = cs := by
  induction cs generalizing before with
  | nil => rfl
  | cons c cs ih =>
      rw [lowerFrom, lowerChar_of_isLowered (low c List.mem_cons_self),
        ih fun d later => low d (List.mem_cons_of_mem c later)]
      rfl

theorem isLowered_of_mem_lowerFrom {before cs : List Char} {d : Char}
    (member : d ∈ lowerFrom before cs) : IsLowered d := by
  induction cs generalizing before with
  | nil => cases member
  | cons c cs ih =>
      rcases List.mem_append.mp member with first | later
      · exact isLowered_of_mem first
      · exact ih later

/-- Lowering twice is lowering once. -/
theorem lower_lower (cs : List Char) : lower (lower cs) = lower cs :=
  lowerFrom_of_isLowered (fun _ member => isLowered_of_mem_lowerFrom member) []

theorem lower_eq_nil_iff {cs : List Char} : lower cs = [] ↔ cs = [] := by
  cases cs with
  | nil => exact Iff.rfl
  | cons c cs => simp [lower, lowerFrom, lowerChar_ne_nil]

structure Bare (cs : List Char) : Prop where
  first : ∀ c ∈ cs.head?, isBlank c = false
  last : ∀ c ∈ cs.getLast?, isBlank c = false

theorem strip_eq (cs : List Char) : strip cs = (cs.dropWhile isBlank).rdropWhile isBlank := rfl

theorem bare_strip (cs : List Char) : Bare (strip cs) := by
  rw [strip_eq]
  constructor
  · intro c first
    obtain ⟨rest, whole⟩ := List.rdropWhile_prefix isBlank (cs.dropWhile isBlank)
    have solid := List.head?_dropWhile_not isBlank cs
    rw [← whole, List.head?_append, first] at solid
    exact solid
  · intro c last
    have some := List.ne_nil_of_mem (List.mem_of_getLast? last)
    rw [List.getLast?_eq_getLast_of_ne_nil some, Option.mem_some_iff] at last
    rw [← last]
    simpa using List.rdropWhile_last_not isBlank (cs.dropWhile isBlank) some

theorem strip_of_bare {cs : List Char} (bare : Bare cs) : strip cs = cs := by
  have front : cs.dropWhile isBlank = cs := by
    cases cs with
    | nil => rfl
    | cons c cs => exact List.dropWhile_cons_of_neg (by simp [bare.first c rfl])
  rw [strip_eq, front, List.rdropWhile_eq_self_iff]
  intro some
  simp [bare.last _ (List.getLast?_eq_getLast_of_ne_nil some)]

theorem strip_eq_nil_iff {cs : List Char} : strip cs = [] ↔ ∀ c ∈ cs, isBlank c = true := by
  rw [strip_eq, List.rdropWhile_eq_nil_iff]
  constructor
  · intro blank
    apply List.dropWhile_eq_nil_iff.mp
    by_contra some
    have solid := List.head_dropWhile_not isBlank some
    rw [blank _ (List.head_mem some)] at solid
    cases solid
  · intro blank c member
    exact blank c ((List.dropWhile_suffix isBlank).subset member)

theorem solid_last_lowerFrom {cs : List Char} (solid : ∀ c ∈ cs.getLast?, isBlank c = false)
    (before : List Char) : ∀ d ∈ (lowerFrom before cs).getLast?, isBlank d = false := by
  induction cs generalizing before with
  | nil =>
      intro d member
      cases member
  | cons c cs ih =>
      intro d last
      cases cs with
      | nil =>
          rw [lowerFrom, lowerFrom, List.append_nil] at last
          exact not_blank_of_mem (solid c rfl) (List.mem_of_getLast? last)
      | cons next rest =>
          have more : lowerFrom (c :: before) (next :: rest) ≠ [] :=
            List.append_ne_nil_of_left_ne_nil (lowerChar_ne_nil _ _ _) _
          rw [lowerFrom, List.getLast?_append_of_ne_nil _ more] at last
          exact ih solid (c :: before) d last

theorem bare_lower {cs : List Char} (bare : Bare cs) : Bare (lower cs) := by
  refine ⟨?_, solid_last_lowerFrom bare.last []⟩
  cases cs with
  | nil =>
      intro d member
      cases member
  | cons c cs =>
      intro d first
      rw [lower, lowerFrom, List.head?_append_of_ne_nil _ (lowerChar_ne_nil _ _ _)] at first
      exact not_blank_of_mem (bare.first c rfl) (List.mem_of_head? first)

end DebridCache.Text
