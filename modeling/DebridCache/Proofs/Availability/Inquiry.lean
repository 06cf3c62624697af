import DebridCache.Availability.Check
import DebridCache.Proofs.Hash
import DebridCache.Proofs.Json.Reader
import DebridCache.Proofs.Wire.Form
import DebridCache.Proofs.Wire.Request

/-!
What a provider reads off the requests of a check. Real-Debrid finds the hashes in the path, Torbox in
the document and AllDebrid in the form; each finds those of the batch, in their order.
-/

namespace DebridCache

open Wire (Sent Request)

namespace Provider

def addressBefore : List Char :=
  (realDebrid.site.base ++ "/torrents/instantAvailability/").toList

def linkBefore : List Char := "magnet:?xt=urn:btih:".toList

def strings : List Value → List String
  | .str s :: rest => s :: strings rest
  | _ :: rest => strings rest
  | [] => []

/-- The hashes that a request asks about, as the provider finds them. -/
def inquired (p : Provider) (sent : Sent) : List String :=
  match p with
  | .realDebrid =>
    match Json.afterWord? addressBefore sent.url.toList with
    | some path => (path.splitOn '/').map String.ofList
    | none => []
  | .torbox =>
    match Json.readText sent.body.length sent.body.toList with
    | .ok document =>
      match document.memberOrNull "hashes" with
      | .arr items => strings items
      | _ => []
    | .error _ => []
  | .allDebrid =>
    match Wire.formField? "magnets[]" sent.body.toList with
    | some links => (links.toList.splitOn '|').filterMap fun link =>
      (Json.afterWord? linkBefore link).map String.ofList
    | none => []

theorem afterWord?_append (word rest : List Char) :
    Json.afterWord? word (word ++ rest) = some rest := by
  induction word with
  | nil => cases rest <;> rfl
  | cons c word ih => exact (if_pos rfl).trans ih

theorem strings_map (hashes : List String) : strings (hashes.map .str) = hashes := by
  induction hashes with
  | nil => rfl
  | cons h hs ih => exact congrArg (h :: ·) ih

end Provider

namespace Account

open Provider (inquired)

theorem mem_intercalate {mark : List Char} {parts : List (List Char)} {c : Char}
    (member : c ∈ mark.intercalate parts) : c ∈ mark ∨ ∃ part ∈ parts, c ∈ part := by
  induction parts with
  | nil => cases member
  | cons part rest ih =>
      cases rest with
      | nil =>
          rw [List.intercalate_singleton] at member
          exact .inr ⟨part, List.mem_cons_self, member⟩
      | cons next others =>
          rw [List.intercalate_cons_cons, List.mem_append, List.mem_append] at member
          rcases member with (here | marked) | later
          · exact .inr ⟨part, List.mem_cons_self, here⟩
          · exact .inl marked
          · rcases ih later with marked | ⟨own, inside, found⟩
            · exact .inl marked
            · exact .inr ⟨own, List.mem_cons_of_mem part inside, found⟩

theorem splitOn_hashes {batch : List String} {mark : Char} (nonempty : batch ≠ [])
    (absent : ∀ h ∈ batch, mark ∉ h.toList) :
    ([mark].intercalate (batch.map String.toList)).splitOn mark = batch.map String.toList := by
  apply List.splitOn_intercalate
  · intro l member
    obtain ⟨h, inside, rfl⟩ := List.mem_map.mp member
    exact absent h inside
  · intro none
    exact nonempty (List.map_eq_nil_iff.mp none)

theorem ofList_toList_map (batch : List String) :
    (batch.map String.toList).map String.ofList = batch := by
  rw [List.map_map]
  exact (List.map_congr_left fun h _ => String.ofList_toList).trans (List.map_id batch)

def path (batch : List String) : List (List Char) :=
  [[], ['r', 'e', 's', 't'], ['1', '.', '0'], "torrents".toList, "instantAvailability".toList] ++
    batch.map String.toList

theorem path_toList {batch : List String} (nonempty : batch ≠ []) :
    (Provider.realDebrid.site.root ++
      ("/torrents/instantAvailability/" ++ String.intercalate "/" batch)).toList =
      ['/'].intercalate (path batch) := by
  cases batch with
  | nil => exact absurd rfl nonempty
  | cons h hs =>
      rw [String.toList_append, String.toList_append, String.toList_intercalate]
      rfl

theorem path_still {batch : List String} (plain : ∀ h ∈ batch, Hash.Plain h) :
    ∀ s ∈ path batch, '/' ∉ s ∧ Wire.isHere s = false ∧ Wire.isUp s = false := by
  have fixed : ∀ s ∈ path [], '/' ∉ s ∧ Wire.isHere s = false ∧ Wire.isUp s = false := by decide
  intro s member
  rcases List.mem_append.mp member with first | own
  · exact fixed s (List.mem_append_left _ first)
  · obtain ⟨h, inside, rfl⟩ := List.mem_map.mp own
    have letters := (plain h inside).letters
    refine ⟨fun slash => absurd (letters '/' slash) (by decide), ?_, ?_⟩
    · apply decide_eq_false
      intro same
      exact absurd (letters '.' (same ▸ List.mem_cons_self)) (by decide)
    · apply decide_eq_false
      intro same
      exact absurd (letters '.' (same ▸ List.mem_cons_self)) (by decide)

theorem path_chars {batch : List String} (plain : ∀ h ∈ batch, Hash.Plain h) :
    ∀ c ∈ ['/'].intercalate (path batch), Wire.IsPathChar c := by
  have fixed : ∀ c ∈ (path []).flatten, Wire.IsPathChar c := Wire.forall_of_all (by decide)
  intro c member
  rcases mem_intercalate member with slash | ⟨s, segment, inside⟩
  · rw [List.mem_singleton.mp slash]
    decide
  · rcases List.mem_append.mp segment with first | own
    · exact fixed c (List.mem_flatten_of_mem (List.mem_append_left _ first) inside)
    · obtain ⟨h, asked, rfl⟩ := List.mem_map.mp own
      exact .of_alphanum ((plain h asked).letters c inside)

theorem question_realDebrid {a : Account} (provider : a.provider = .realDebrid) (batch : List String) :
    a.question batch =
      a.request .get ("/torrents/instantAvailability/" ++ String.intercalate "/" batch) .nothing := by
  rw [Account.question, provider]

theorem inquired_realDebrid {a : Account} (provider : a.provider = .realDebrid) {batch : List String}
    (nonempty : batch ≠ []) (plain : ∀ h ∈ batch, Hash.Plain h) {sent : Sent}
    (prepared : (a.question batch).prepare = .ok sent) : inquired .realDebrid sent = batch := by
  have question := question_realDebrid provider batch
  have whole : (a.question batch).query = none := by
    rw [question, Account.request, queryFields, provider]
    rfl
  obtain ⟨address, made, url⟩ := Wire.url_of_prepare prepared whole
  have site : (a.question batch).site = Provider.realDebrid.site := by
    rw [question, Account.request, provider]
  have endpoint : (a.question batch).endpoint =
      "/torrents/instantAvailability/" ++ String.intercalate "/" batch := by
    rw [question]
    rfl
  rw [site, endpoint] at made
  have text := path_toList nonempty
  have filled : path batch ≠ [] := List.cons_ne_nil _ _
  have split : (['/'].intercalate (path batch)).splitOn '/' = path batch :=
    List.splitOn_intercalate '/' (fun s member => (path_still plain s member).1) filled
  have plainly := Wire.ofEndpoint_plain made (by rw [text]; exact path_chars plain)
    (by rw [text, split]; exact fun s member => (path_still plain s member).2)
  have sent : sent.url.toList = Provider.addressBefore ++
      ['/'].intercalate (batch.map String.toList) := by
    rw [url, site, plainly, Wire.Address.render, String.toList_ofList, Provider.addressBefore,
      Wire.Site.base]
    simp only [String.toList_append, String.toList_intercalate, List.append_assoc, List.append_nil]
    rfl
  have segments := splitOn_hashes nonempty fun h inside slash =>
    absurd ((plain h inside).letters '/' slash) (by decide)
  rw [inquired, sent, Provider.afterWord?_append]
  show (List.splitOn '/' _).map String.ofList = batch
  rw [segments, ofList_toList_map]

def document (batch : List String) : Value :=
  .obj [("hashes", .arr (batch.map .str)), ("format", .str "object"), ("list_files", .bool true)]

theorem value_document (batch : List String) :
    Json.Style.compact.value (document batch) =
      '\x7b' :: (Json.Style.compact.string "hashes" ++ ':' ::
        (Json.Style.compact.value (.arr (batch.map .str)) ++ ',' ::
          (Json.Style.compact.string "format" ++ ':' ::
            (Json.Style.compact.string "object" ++ ',' ::
              (Json.Style.compact.string "list_files" ++ ':' ::
                (Json.Style.compact.value (.bool true) ++ ['\x7d'])))))) := by
  unfold document
  simp only [Json.Style.value, Json.Style.members, List.append_assoc]
  rfl

theorem read_document (h : String) (hs : List String) {n : Nat} (enough : hs.length ≤ n) (room : Nat) :
    Json.value (n + 8) (room + 2) (Json.Style.compact.value (document (h :: hs))) =
      .ok (document (h :: hs), []) := by
  have files := Json.members_last "list_files" rfl (Json.value_true (n + 3) (room + 1) ['\x7d'])
  have format := Json.members_cons "format" rfl rfl (Json.value_string "object" (n + 4) (room + 1) _) files
  have hashes := Json.members_cons "hashes" rfl rfl
    (Json.value_strings h hs (show hs.length + 2 ≤ n + 5 by omega) room _) format
  rw [value_document]
  exact Json.value_members hashes

theorem readText_document {batch : List String} (nonempty : batch ≠ []) :
    Json.readText (Json.Style.compact.value (document batch)).length
      (Json.Style.compact.value (document batch)) = .ok (document batch) := by
  cases batch with
  | nil => exact absurd rfl nonempty
  | cons h hs =>
      have long : hs.length + 8 ≤ (Json.Style.compact.value (document (h :: hs))).length := by
        have list := Json.length_strings h hs
        have key : (Json.Style.compact.string "hashes").length = 8 := rfl
        rw [value_document, List.length_cons, List.length_append, List.length_cons,
          List.length_append]
        omega
      obtain ⟨n, fuel, enough⟩ : ∃ n,
          2 * (Json.Style.compact.value (document (h :: hs))).length + 2 = n + 8 ∧ hs.length ≤ n :=
        ⟨2 * (Json.Style.compact.value (document (h :: hs))).length - 6, by omega, by omega⟩
      obtain ⟨room, deep⟩ : ∃ room,
          (Json.Style.compact.value (document (h :: hs))).length = room + 2 :=
        ⟨(Json.Style.compact.value (document (h :: hs))).length - 2, by omega⟩
      have start : Json.skip (Json.Style.compact.value (document (h :: hs))) =
          Json.Style.compact.value (document (h :: hs)) := by
        rw [value_document]
        rfl
      have read := read_document h hs enough room
      rw [← deep, ← fuel] at read
      rw [Json.readText, start, read]
      rfl

theorem inquired_torbox {a : Account} (provider : a.provider = .torbox) {batch : List String}
    (nonempty : batch ≠ []) {sent : Sent} (prepared : (a.question batch).prepare = .ok sent) :
    inquired .torbox sent = batch := by
  have payload : (a.question batch).payload = .json (document batch) := by
    rw [Account.question, provider]
    rfl
  have body : sent.body.toList = Json.Style.compact.value (document batch) := by
    rw [(Wire.parts_of_prepare prepared).body, payload, Wire.Payload.body, Json.write, String.toList_ofList]
  rw [inquired, ← String.length_toList, body, readText_document nonempty]
  exact Provider.strings_map batch

theorem magnetList_toList (batch : List String) :
    (magnetList batch).toList =
      ['|'].intercalate (batch.map fun h => Provider.linkBefore ++ h.toList) := by
  rw [magnetList, String.toList_intercalate, List.map_map]
  refine congrArg (List.intercalate ['|']) (List.map_congr_left fun h _ => ?_)
  show (Hash.magnetScheme ++ "?xt=urn:btih:" ++ h).toList = _
  rw [String.toList_append]
  rfl

/-- AllDebrid finds a batch in its form if no hash has the bar that stands between two links. -/
theorem inquired_allDebrid {a : Account} (provider : a.provider = .allDebrid) {batch : List String}
    (nonempty : batch ≠ []) (unbarred : ∀ h ∈ batch, '|' ∉ h.toList) {sent : Sent}
    (prepared : (a.question batch).prepare = .ok sent) : inquired .allDebrid sent = batch := by
  have payload : (a.question batch).payload = .form [("magnets[]", .str (magnetList batch))] := by
    rw [Account.question, provider]
    rfl
  have body : sent.body.toList = Wire.encodeFields [("magnets[]", .str (magnetList batch))] := by
    rw [(Wire.parts_of_prepare prepared).body, payload, Wire.Payload.body, String.toList_ofList]
  have links : (magnetList batch).toList.splitOn '|' =
      batch.map fun h => Provider.linkBefore ++ h.toList := by
    rw [magnetList_toList]
    apply List.splitOn_intercalate
    · intro link listed bar
      obtain ⟨h, asked, rfl⟩ := List.mem_map.mp listed
      rcases List.mem_append.mp bar with before | own
      · revert before
        decide
      · exact unbarred h asked own
    · intro none
      exact nonempty (List.map_eq_nil_iff.mp none)
  rw [inquired, body, Wire.formField?_single]
  show (List.splitOn '|' _).filterMap _ = batch
  rw [links, List.filterMap_map]
  have each : ((fun link => (Json.afterWord? Provider.linkBefore link).map String.ofList) ∘
      fun h : String => Provider.linkBefore ++ h.toList) = some := by
    funext h
    show (Json.afterWord? Provider.linkBefore (Provider.linkBefore ++ h.toList)).map
      String.ofList = some h
    rw [Provider.afterWord?_append, Option.map_some, String.ofList_toList]
  rw [each, List.filterMap_some]

/-- A provider finds in a request the hashes of the batch that it asks about. -/
theorem inquired_question {a : Account} {batch : List String} (nonempty : batch ≠ [])
    (plain : ∀ h ∈ batch, Hash.Plain h) {sent : Sent}
    (prepared : (a.question batch).prepare = .ok sent) : inquired a.provider sent = batch := by
  cases provider : a.provider with
  | realDebrid => exact inquired_realDebrid provider nonempty plain prepared
  | torbox => exact inquired_torbox provider nonempty prepared
  | allDebrid =>
      refine inquired_allDebrid provider nonempty (fun h inside bar => ?_) prepared
      exact absurd ((plain h inside).letters '|' bar) (by decide)

end Account
end DebridCache
