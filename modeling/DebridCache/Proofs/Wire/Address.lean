import DebridCache.Wire.Address

/-!
Addresses of plain endpoints. Where a path has no character that has to be escaped and no segment that is
one point or two, it is sent as it stands.
-/

namespace DebridCache.Wire

/-- What all characters of a fixed text have in common is found by going through them. -/
theorem forall_of_all {p : Char → Prop} [DecidablePred p] {cs : List Char}
    (all : cs.all (fun c => decide (p c)) = true) : ∀ c ∈ cs, p c := by
  intro c member
  exact of_decide_eq_true (List.all_eq_true.mp all c member)

theorem forall_repeated {p : Char → Prop} {c : Char} (holds : p c) (n : Nat) :
    ∀ d ∈ (String.ofList (List.replicate n c)).toList, p d := by
  intro d member
  rw [String.toList_ofList] at member
  rwa [List.eq_of_mem_replicate member]

theorem length_repeated (n : Nat) (c : Char) : (String.ofList (List.replicate n c)).length = n := by
  rw [String.length_ofList, List.length_replicate]

theorem segments_eq_splitOn (cs : List Char) : segments cs = cs.splitOn '/' := by
  induction cs with
  | nil => rfl
  | cons c cs ih =>
      rw [segments, ih, List.splitOn_cons_eq_if_modifyHead]
      by_cases slash : c = '/'
      · rw [if_pos slash, if_pos (beq_iff_eq.mpr slash)]
      · rw [if_neg slash, if_neg (mt beq_iff_eq.mp slash)]
        cases parts : cs.splitOn '/' with
        | nil => exact absurd parts (List.splitOn_ne_nil _ _)
        | cons s ss => rfl

theorem alphanum_range {c : Char} (plain : c.isAlphanum = true) :
    48 ≤ c.toNat ∧ c.toNat < 123 := by
  change (decide (65 ≤ c.toNat ∧ c.toNat ≤ 90) ||
    (decide (97 ≤ c.toNat) && decide (c.toNat ≤ 122)) ||
    (decide (48 ≤ c.toNat) && decide (c.toNat ≤ 57))) = true at plain
  simp only [Bool.or_eq_true, Bool.and_eq_true, decide_eq_true_eq] at plain
  omega

theorem ne_of_alphanum {c d : Char} (plain : c.isAlphanum = true) (mark : d.isAlphanum = false) :
    c ≠ d := by
  rintro rfl
  rw [mark] at plain
  cases plain

/-- A character that a path carries as it is. The marks of a query and of a fragment are none. -/
def IsPathChar (c : Char) : Prop := 0x20 ≤ c.toNat ∧ c.toNat < 0x7F ∧ c ∉ pathExcluded

instance : DecidablePred IsPathChar := fun c =>
  inferInstanceAs (Decidable (0x20 ≤ c.toNat ∧ c.toNat < 0x7F ∧ c ∉ pathExcluded))

theorem IsPathChar.of_alphanum {c : Char} (plain : c.isAlphanum = true) : IsPathChar c := by
  have range := alphanum_range plain
  refine ⟨by omega, by omega, ?_⟩
  have marks : ∀ d ∈ pathExcluded, d.isAlphanum = false := forall_of_all (by decide)
  intro excluded
  exact ne_of_alphanum plain (marks c excluded) rfl

theorem escapePath_plain {cs : List Char} (plain : ∀ c ∈ cs, IsPathChar c) : escapePath cs = cs := by
  unfold escapePath
  induction cs with
  | nil => rfl
  | cons c cs ih =>
      have same : addressChar pathExcluded c = [c] := if_pos (plain c List.mem_cons_self)
      rw [List.flatMap_cons, same, ih fun d later => plain d (List.mem_cons_of_mem c later)]
      rfl

def percentMarks : List Char := "%0123456789ABCDEF".toList

theorem mem_percentChar {c d : Char} (member : d ∈ percentChar c) : d ∈ percentMarks := by
  have hex : ∀ n : Fin 16, upperHexDigit n ∈ percentMarks := by decide
  obtain ⟨b, -, member⟩ := List.mem_flatMap.mp member
  have bound := b.toNat_lt
  rcases List.mem_cons.mp member with rfl | member
  · decide
  · rcases List.mem_cons.mp member with rfl | member
    · exact hex ⟨b.toNat / 16, by omega⟩
    · rw [List.mem_singleton.mp member]
      exact hex ⟨b.toNat % 16, by omega⟩

theorem percent_mem_percentChar (c : Char) : '%' ∈ percentChar c := by
  have bytes : String.utf8EncodeChar c ≠ [] := by
    rw [← List.length_pos_iff, String.length_utf8EncodeChar]
    exact c.utf8Size_pos
  obtain ⟨b, rest, encoded⟩ := List.exists_cons_of_ne_nil bytes
  rw [percentChar, encoded]
  exact List.mem_cons_self

theorem mem_escapePath {cs : List Char} {d : Char} (member : d ∈ escapePath cs) :
    (d ∈ cs ∧ IsPathChar d) ∨ d ∈ percentMarks := by
  obtain ⟨c, inside, member⟩ := List.mem_flatMap.mp member
  unfold addressChar at member
  split at member
  · rename_i plain
    rw [List.mem_singleton.mp member]
    exact .inl ⟨inside, plain⟩
  · exact .inr (mem_percentChar member)

/-- A plain text without a percent sign is the escaped form of itself alone. -/
theorem escapePath_eq_iff {cs plain : List Char} (bare : ∀ c ∈ plain, IsPathChar c ∧ c ≠ '%') :
    escapePath cs = plain ↔ cs = plain := by
  constructor
  · intro same
    have every : ∀ c ∈ cs, IsPathChar c := by
      intro c member
      refine Decidable.byContradiction fun odd => ?_
      have escaped : addressChar pathExcluded c = percentChar c := if_neg odd
      have percent : '%' ∈ escapePath cs :=
        List.mem_flatMap.mpr ⟨c, member, escaped ▸ percent_mem_percentChar c⟩
      exact (bare '%' (same ▸ percent)).2 rfl
    rwa [escapePath_plain every] at same
  · rintro rfl
    exact escapePath_plain fun c member => (bare c member).1

theorem cut_absent {mark : Char} {cs : List Char} (absent : mark ∉ cs) : cut mark cs = (cs, none) := by
  induction cs with
  | nil => rfl
  | cons c cs ih =>
      have other : c ≠ mark := fun same => absent (same ▸ List.mem_cons_self)
      rw [cut, if_neg other, ih fun later => absent (List.mem_cons_of_mem c later)]

theorem resolvePath_plain {cs : List Char}
    (still : ∀ s ∈ cs.splitOn '/', isHere s = false ∧ isUp s = false) : resolvePath cs = cs := by
  have none : ¬ (segments cs).any (fun s => isHere s || isUp s) = true := by
    rw [segments_eq_splitOn, List.any_eq_true]
    rintro ⟨s, member, dots⟩
    rw [(still s member).1, (still s member).2] at dots
    cases dots
  exact if_neg none

theorem ofEndpoint_ok {site : Site} {endpoint : String}
    (short : (site.base ++ endpoint).toList.length ≤ longest)
    (clean : ∀ c ∈ (site.base ++ endpoint).toList, isControl c = false) :
    ∃ address, Address.ofEndpoint site endpoint = .ok address := by
  have printable : ¬ (site.base ++ endpoint).toList.any isControl = true := by
    rw [List.any_eq_true]
    rintro ⟨c, member, found⟩
    rw [clean c member] at found
    cases found
  exact ⟨_, (if_neg (Nat.not_lt.mpr short)).trans (if_neg printable)⟩

theorem ofEndpoint_plain {site : Site} {endpoint : String} {a : Address}
    (made : Address.ofEndpoint site endpoint = .ok a)
    (plain : ∀ c ∈ (site.root ++ endpoint).toList, IsPathChar c)
    (still : ∀ s ∈ (site.root ++ endpoint).toList.splitOn '/', isHere s = false ∧ isUp s = false) :
    a = ⟨(site.root ++ endpoint).toList, none, none⟩ := by
  have fragment : '#' ∉ (site.root ++ endpoint).toList := fun member =>
    (plain '#' member).2.2 (by decide)
  have query : '?' ∉ (site.root ++ endpoint).toList := fun member =>
    (plain '?' member).2.2 (by decide)
  simp only [Address.ofEndpoint, cut_absent fragment, cut_absent query, resolvePath_plain still,
    escapePath_plain plain] at made
  split at made
  · cases made
  · split at made
    · cases made
    · exact (Except.ok.inj made).symm

theorem IsPathChar.not_control {c : Char} (plain : IsPathChar c) : isControl c = false := by
  have above : ¬ c.toNat < 0x20 := Nat.not_lt.mpr plain.1
  have below : c.toNat ≠ 0x7F := Nat.ne_of_lt plain.2.1
  simp [isControl, above, below]

/-- An endpoint that is plain is refused only when it is too long. -/
theorem ofEndpoint_eq {site : Site} {endpoint : String}
    (origin : ∀ c ∈ site.origin.toList, isControl c = false)
    (plain : ∀ c ∈ (site.root ++ endpoint).toList, IsPathChar c)
    (still : ∀ s ∈ (site.root ++ endpoint).toList.splitOn '/', isHere s = false ∧ isUp s = false) :
    Address.ofEndpoint site endpoint =
      if longest < (site.base ++ endpoint).length then .error (.badAddress "URL too long")
      else .ok ⟨(site.root ++ endpoint).toList, none, none⟩ := by
  by_cases long : longest < (site.base ++ endpoint).length
  · rw [if_pos long]
    exact if_pos long
  · rw [if_neg long]
    obtain ⟨address, made⟩ := ofEndpoint_ok (Nat.le_of_not_lt long) (by
      intro c member
      rw [Site.base, String.append_assoc, String.toList_append] at member
      rcases List.mem_append.mp member with first | rest
      · exact origin c first
      · exact (plain c rest).not_control)
    rw [made, ofEndpoint_plain made plain still]

/-- An address without a fragment takes fields unless they are too long. -/
theorem withFields_eq {a : Address} (path : a.path.length ≤ longest) (whole : a.fragment = none)
    (fields : Fields) :
    a.withFields fields =
      if longest < (encodeFields fields).length then .error (Address.partTooLong "query")
      else .ok { a with query := some (encodeFields fields) } := by
  have fits : ¬ longest < a.path.length := Nat.not_lt.mpr path
  have none : ¬ longest < ([] : List Char).length := by decide
  simp only [Address.withFields, whole, Option.getD_none, if_neg fits, if_neg none]

theorem render_query (site : Site) (path query : List Char) :
    Address.render site ⟨path, some query, none⟩ =
      site.origin ++ String.ofList path ++ "?" ++ String.ofList query := by
  apply String.toList_inj.mp
  simp [Address.render]

/-- A character that stands as it is in one segment of a path and cannot make a point of it. -/
def IsSegmentChar (c : Char) : Prop := IsPathChar c ∧ c ≠ '/' ∧ c ≠ '.'

instance : DecidablePred IsSegmentChar := fun c =>
  inferInstanceAs (Decidable (IsPathChar c ∧ c ≠ '/' ∧ c ≠ '.'))

theorem IsSegmentChar.of_alphanum {c : Char} (plain : c.isAlphanum = true) : IsSegmentChar c :=
  ⟨.of_alphanum plain, ne_of_alphanum plain (by decide), ne_of_alphanum plain (by decide)⟩

/-- A whole number is written in digits, with a minus sign before them if it is negative. -/
theorem isSegmentChar_of_int (n : Int) : ∀ c ∈ (toString n).toList, IsSegmentChar c := by
  have digits (m : Nat) : ∀ c ∈ m.repr.toList, IsSegmentChar c := by
    intro c member
    rw [Nat.toList_repr] at member
    have digit : c.isDigit = true := Nat.isDigit_of_mem_toDigits (by decide) (by decide) member
    exact .of_alphanum (by rw [Char.isAlphanum, digit, Bool.or_true])
  intro c member
  cases n with
  | ofNat m => exact digits m c member
  | negSucc m =>
      change c ∈ ("-" ++ (m + 1).repr).toList at member
      rw [String.toList_append] at member
      rcases List.mem_append.mp member with sign | digit
      · rw [List.mem_singleton.mp sign]
        decide
      · exact digits (m + 1) c digit

theorem still_of_segment {cs : List Char} (plain : ∀ c ∈ cs, IsSegmentChar c) :
    '/' ∉ cs ∧ isHere cs = false ∧ isUp cs = false := by
  refine ⟨fun slash => (plain '/' slash).2.1 rfl, decide_eq_false ?_, decide_eq_false ?_⟩
  · intro same
    exact (plain '.' (same ▸ List.mem_cons_self)).2.2 rfl
  · intro same
    exact (plain '.' (same ▸ List.mem_cons_self)).2.2 rfl

end DebridCache.Wire
