import DebridCache.Proofs.Availability.Spoiling
import DebridCache.Proofs.Confinement

/-!
Blank hashes. Empty items are left out before the others are normalised, so text of nothing but blanks
becomes the empty hash: it is asked for, it is in the results, and asking for the results again leaves
it out.
-/

namespace DebridCache

open Wire (Sent)

namespace Hash

def Blank (h : String) : Prop := ∀ c ∈ h.toList, Text.isBlank c = true

theorem empty_mem_asked_iff {hashes : List String} : "" ∈ asked hashes ↔ ∃ h ∈ hashes, h ≠ "" ∧ Blank h := by
  simp only [mem_asked, normalize_eq_empty_iff, Blank]

theorem asked_blank {hashes : List String} (blank : ∀ h ∈ hashes, Blank h) (some : ∃ h ∈ hashes, h ≠ "") :
    asked hashes = [""] := by
  obtain ⟨h, given, nonempty⟩ := some
  have held : "" ∈ asked hashes := empty_mem_asked_iff.mpr ⟨h, given, nonempty, blank h given⟩
  have only : ∀ form ∈ asked hashes, form = "" := by
    intro form member
    obtain ⟨h, given, -, rfl⟩ := mem_asked.mp member
    exact normalize_eq_empty_iff.mpr (blank h given)
  have same := List.eq_replicate_of_mem only
  have distinct : (asked hashes).length ≤ 1 := List.nodup_replicate.mp (same ▸ nodup_asked hashes)
  have once : (asked hashes).length = 1 := Nat.le_antisymm distinct (List.length_pos_of_mem held)
  rw [same, once]
  rfl

end Hash

namespace Provider

/-- A hash that stands in a request as it is: it has no mark that the provider takes for the end of it,
and no segment of it is resolved. -/
def Carries (p : Provider) (h : String) : Prop :=
  match p with
  | .realDebrid => ('/' ∉ h.toList ∧ '?' ∉ h.toList ∧ '#' ∉ h.toList) ∧ h ≠ "." ∧ h ≠ ".."
  | .torbox => True
  | .allDebrid => '|' ∉ h.toList

/-- A request that names an empty hash: as a segment of its path, in its document or in its form. -/
def NamesEmpty (p : Provider) (sent : Sent) : Prop :=
  match p with
  | .realDebrid => [] ∈ (Wire.segments (Wire.urlPath sent.url)).tail
  | p => "" ∈ p.inquired sent

end Provider

namespace Account

variable {a : Account} {batch : List String} {sent : Sent}

/-- Hashes that stand in the path as they are, are its last segments. -/
theorem segments_question (provider : a.provider = .realDebrid) (nonempty : batch ≠ [])
    (carried : ∀ h ∈ batch, Provider.realDebrid.Carries h) (prepared : (a.question batch).prepare = .ok sent) :
    Wire.segments (Wire.urlPath sent.url) =
      (Wire.segments "/rest/1.0/torrents/instantAvailability".toList ++ batch.map String.toList).map
        Wire.escapePath := by
  have text : (String.intercalate "/" batch).toList = ['/'].intercalate (batch.map String.toList) :=
    String.toList_intercalate ..
  have unmarked {mark : Char} (other : mark ≠ '/') (absent : ∀ h ∈ batch, mark ∉ h.toList) :
      mark ∉ (String.intercalate "/" batch).toList := by
    rw [text]
    intro member
    rcases mem_intercalate member with slash | ⟨part, listed, inside⟩
    · exact other (List.mem_singleton.mp slash)
    · obtain ⟨h, given, rfl⟩ := List.mem_map.mp listed
      exact absent h given inside
  have bare : '?' ∉ (String.intercalate "/" batch).toList ∧ '#' ∉ (String.intercalate "/" batch).toList :=
    ⟨unmarked (by decide) fun h given => (carried h given).1.2.1,
      unmarked (by decide) fun h given => (carried h given).1.2.2⟩
  have split : Wire.segments (String.intercalate "/" batch).toList = batch.map String.toList := by
    rw [Wire.segments_eq_splitOn, text, splitOn_hashes nonempty fun h given => (carried h given).1.1]
  have still : ∀ s ∈ Wire.segments (String.intercalate "/" batch).toList,
      Wire.isHere s = false ∧ Wire.isUp s = false := by
    intro s member
    rw [split] at member
    obtain ⟨h, given, rfl⟩ := List.mem_map.mp member
    obtain ⟨-, here, up⟩ := carried h given
    exact ⟨decide_eq_false fun same => here (String.toList_inj.mp same),
      decide_eq_false fun same => up (String.toList_inj.mp same)⟩
  rw [(question_spliced provider prepared).path, isEndpoint_availability.segments_still bare still, split]

/-- Where the hashes of a batch stand in a request as they are, it names an empty hash just if there is
one. -/
theorem namesEmpty_iff {p : Provider} (provider : a.provider = p) (nonempty : batch ≠ [])
    (carried : ∀ h ∈ batch, p.Carries h) (prepared : (a.question batch).prepare = .ok sent) :
    p.NamesEmpty sent ↔ "" ∈ batch := by
  cases p with
  | realDebrid =>
      have fixed : [] ∉ (Wire.segments "/rest/1.0/torrents/instantAvailability".toList).tail := by decide
      have empty (s : List Char) : Wire.escapePath s = [] ↔ s = [] := Wire.escapePath_eq_iff nofun
      rw [Provider.NamesEmpty, segments_question provider nonempty carried prepared, ← List.map_tail,
        List.tail_append_of_ne_nil (Wire.segments_ne_nil _)]
      simp only [List.mem_map, List.mem_append, empty]
      constructor
      · rintro ⟨s, own | ⟨h, given, rfl⟩, none⟩
        · exact absurd (none ▸ own) fixed
        · have same : h = "" := String.toList_inj.mp none
          exact same ▸ given
      · intro held
        exact ⟨[], .inr ⟨"", held, rfl⟩, rfl⟩
  | torbox => rw [Provider.NamesEmpty, inquired_torbox provider nonempty prepared]; nofun
  | allDebrid => rw [Provider.NamesEmpty, inquired_allDebrid provider nonempty carried prepared]; nofun

/-- Blanks alone are asked for as the empty hash, which is then in the results and in a request; without
them no hash is empty anywhere. Asking for the hashes of some results again asks for the same but for
the empty one. -/
theorem check_blank {p : Provider} {credential timeout agent : Value} {size : Int} {delay : Binary64}
    {a : Account} (created : create p ⟨credential, timeout, .int size, .float delay, agent⟩ = .ok a)
    {hashes : List String} {c : Client}
    (met : ∀ e ∈ (a.check (.arr (hashes.map .str))).dialogue c, e.2 ≠ .failed .cancelled) :
    ∃ u results, Hash.unique (.arr (hashes.map .str)) = .ok u ∧
      ((a.check (.arr (hashes.map .str))).run c).result = .ok results ∧ results.map (·.1) = u ∧
      ("" ∈ u ↔ ∃ h ∈ hashes, h ≠ "" ∧ Hash.Blank h) ∧
      Hash.unique (.arr (u.map .str)) = .ok (u.filter fun h => h ≠ "") ∧
      ((∀ h ∈ hashes, h = "") → results = [] ∧ ((a.check (.arr (hashes.map .str))).run c).events = []) ∧
      ((∀ h ∈ hashes, Hash.Blank h) → (∃ h ∈ hashes, h ≠ "") →
        u = [""] ∧ (a.check (.arr (hashes.map .str))).dialogue c = c.asking (a.question [""])) ∧
      ∀ e ∈ (a.check (.arr (hashes.map .str))).dialogue c, ∃ batch ∈ a.batches u,
        (a.question batch).prepare = .ok e.1 ∧
        ((∀ h ∈ u, p.Carries h) → (p.NamesEmpty e.1 ↔ "" ∈ batch)) := by
  rw [create_eq_opened] at created
  cases created
  have regular := opened_regular p credential timeout size delay agent
  have provider := opened_provider p credential timeout size delay agent
  generalize opened p credential timeout size delay agent = a at regular provider met ⊢
  have ends := check_ends regular hashes (outcomes_of_check regular met)
  have keys : (a.reference (a.batches (Hash.asked hashes))
      (a.outcomes c (a.batches (Hash.asked hashes)))).map (·.1) = Hash.asked hashes := by
    rw [a.keys_reference (a.length_outcomes c _), flatten_batches regular.size]
  refine ⟨Hash.asked hashes, _, Hash.unique_texts hashes, ends.result, keys, Hash.empty_mem_asked_iff,
    ?_, ?_, ?_, ?_⟩
  · rw [Hash.unique_texts, Hash.asked_asked]
  · intro empty
    have none := Hash.asked_eq_nil empty
    have unsent : a.batches [] = [] := Batch.chunks_nil _
    constructor
    · rw [none, unsent]
      rfl
    · rw [check, Hash.unique_texts, none]
      rfl
  · intro blank some
    have only := Hash.asked_blank blank some
    refine ⟨only, ?_⟩
    have once : a.batches [""] = [[""]] := batches_single regular.size ""
    rw [ends.dialogue, only, once, asking, asking, List.append_nil]
  · intro e said
    obtain ⟨batch, member, prepared⟩ := question_of_dialogue regular met said
    refine ⟨batch, member, prepared, fun carried => ?_⟩
    exact namesEmpty_iff provider (ne_nil_of_mem_batches regular.size member)
      (fun h inside => carried h (subset_of_mem_batches regular.size member inside)) prepared

theorem check_blank_of_two :
    ∃ (c : Client) (results : ResultMap),
      create .torbox ⟨.str "key", .null, .int 0, .float (.ofNat 0), .null⟩ = .ok atTorbox ∧
      (∀ e ∈ (atTorbox.check (.arr [.str "AA", .str " "])).dialogue c, e.2 ≠ .failed .cancelled) ∧
      ((atTorbox.check (.arr [.str "AA", .str " "])).run c).result = .ok results ∧
      results.map (·.1) = ["aa", ""] ∧ Hash.unique (.arr [.str "aa", .str ""]) = .ok ["aa"] := by
  have met : ∀ e ∈ (atTorbox.check (.arr (["AA", " "].map .str))).dialogue
      ⟨false, [], .answered naming⟩, e.2 ≠ .failed .cancelled := by
    intro e member
    rw [Exchange.dialogue_always _ e member]
    nofun
  obtain ⟨u, results, unique, ran, keys, -, again, -⟩ := check_blank create_atTorbox met
  obtain rfl : ["aa", ""] = u := Except.ok.inj unique
  exact ⟨_, results, create_atTorbox, met, ran, keys, again⟩

/-- One blank asks about the empty hash. -/
theorem check_blank_not_left_out :
    Hash.Blank " " ∧ Hash.unique (.arr [.str " "]) = .ok [""] ∧ Hash.unique (.arr [.str ""]) = .ok [] ∧
      ∃ (c : Client) (results : ResultMap),
        create .torbox ⟨.str "key", .null, .int 0, .float (.ofNat 0), .null⟩ = .ok atTorbox ∧
        ((atTorbox.check (.arr [.str " "])).run c).result = .ok results ∧
        results.map (·.1) = [""] ∧
        ∃ e ∈ (atTorbox.check (.arr [.str " "])).dialogue c, Provider.torbox.NamesEmpty e.1 := by
  have regular : atTorbox.Regular := opened_regular .torbox (.str "key") .null 0 (.ofNat 0) .null
  have steady : Client.Steady ⟨false, [], .answered naming⟩ :=
    Client.steady_always (Wire.Outcome.met_of_answered rfl)
  have once : atTorbox.batches [""] = [[""]] := batches_single regular.size ""
  have ends := check_ends regular [" "] (atTorbox.outcomes_steady steady _)
  have keys := atTorbox.keys_reference (atTorbox.length_outcomes ⟨false, [], .answered naming⟩ [[""]])
  rw [show Hash.asked [" "] = [""] from rfl, once] at ends
  obtain ⟨sent, prepared⟩ : ∃ sent, (atTorbox.question [""]).prepare = .ok sent := ⟨_, rfl⟩
  have said := ends.dialogue
  rw [asking, asking, List.append_nil, Client.asking_of_prepare prepared rfl] at said
  refine ⟨Wire.forall_of_all (by decide), rfl, rfl, _, _, create_atTorbox, ends.result, keys, _,
    said ▸ List.mem_singleton_self _, ?_⟩
  have carried : ∀ h ∈ [""], Provider.torbox.Carries h := fun _ _ => trivial
  exact (namesEmpty_iff rfl (List.cons_ne_nil _ _) carried prepared).mpr List.mem_cons_self

end Account
end DebridCache
