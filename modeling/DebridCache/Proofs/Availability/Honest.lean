import DebridCache.Proofs.Availability.Sendable
import DebridCache.Proofs.Availability.Variants

/-!
Providers that answer for what they hold. An honest answer says of every hash that the request asks
about whether it is held, in the provider's own form; a check that is answered so throughout gives just
the hashes held as cached.
-/

namespace DebridCache

open Wire (Sent Outcome)

def Value.HasFileList (v : Value) : Prop :=
  v.memberOrNull "files" = .null ∨ ∃ items, v.memberOrNull "files" = .arr items

namespace Provider

/-- An answer about some hashes that is true to what is held. -/
def Honest (p : Provider) (held : String → Bool) (hashes : List String) (answer : Value) : Prop :=
  match p with
  | .realDebrid => ∃ members, answer = .obj members ∧ ∀ h ∈ hashes,
      (held h = true → ∃ entry files, members.lookup h = some (.obj entry) ∧
        entry.lookup "rd" = some (.arr files) ∧ files ≠ []) ∧
      (held h = false → ∀ entry, members.lookup h = some (.obj entry) →
        entry.lookup "rd" = some (.arr []))
  | .torbox => ∃ members data, answer = .obj members ∧
      members.lookup "success" = some (.bool true) ∧ members.lookup "data" = some (.obj data) ∧
      (∀ h ∈ hashes, held h = true ↔ ∃ m ∈ data, String.ofList (Text.lower m.1.toList) = h) ∧
      ∀ m ∈ data, m.2.HasFileList
  | .allDebrid => ∃ members data entries, answer = .obj members ∧
      members.lookup "status" = some (.str "success") ∧ members.lookup "data" = some (.obj data) ∧
      data.lookup "magnets" = some (.arr entries) ∧ entries.length = hashes.length ∧
      ∀ pair ∈ hashes.zip entries, pair.2.HasFileList ∧ ∃ entry, pair.2 = .obj entry ∧
        (entry.lookup "instant" = some (.bool true) ↔ held pair.1 = true)

end Provider

namespace Account

/-- All that goes over the wire in a check is answered with success, and honestly for the hashes that
the provider finds in each request. -/
def AnsweredHonestly (a : Account) (c : Client) (held : String → Bool) (hashes : List String) :
    Prop :=
  ∀ e ∈ (a.check (.arr (hashes.map .str))).dialogue c, ∃ r answer,
    e.2 = .answered r ∧ r.isSuccess = true ∧ r.document = .ok answer ∧
      a.provider.Honest held (Provider.inquired a.provider e.1) answer

/-- Statuses that have as cached what is held and nothing else. -/
def Tells (held : String → Bool) (statuses : ResultMap) : Prop :=
  ∀ r ∈ statuses, r.2.cached = held r.1

theorem filesOf_list {v : Value} (files : v.HasFileList) :
    ∃ items, Availability.filesOf (v.memberOrNull "files") = .ok items := by
  rcases files with null | ⟨items, list⟩
  · rw [null]
    exact ⟨[], rfl⟩
  · rw [list]
    unfold Availability.filesOf
    split
    · exact ⟨items, rfl⟩
    · exact ⟨[], rfl⟩

theorem statuses_of_found {a : Account} {batch : List String} {o : Outcome} {found : ResultMap}
    (told : a.told batch o = .ok found) (keys : found.map (·.1) = batch) (distinct : batch.Nodup) :
    a.statuses batch o = found := by
  rw [statuses, Account.found, told, ← keys]
  rw [← keys] at distinct
  exact ResultMap.overlay_eq_found distinct _

theorem told_answered {a : Account} (batch : List String) {r : Wire.Response} {answer : Value}
    (success : r.isSuccess = true) (document : r.document = .ok answer) :
    a.told batch (.answered r) = (do
      match ← Availability.read a.provider batch answer with
      | .found statuses => return statuses
      | .refused _ => return []) := by
  have documented : documentOf (a.question batch) r = .ok answer := by
    rw [documentOf, success]
    exact document
  have all : a.told batch (.answered r) = documentOf (a.question batch) r >>= fun answer => do
      match ← Availability.read a.provider batch answer with
      | .found statuses => return statuses
      | .refused _ => return [] := rfl
  rw [all, documented]
  rfl

theorem told_of_read {a : Account} {batch : List String} {r : Wire.Response} {answer : Value}
    {found : ResultMap} (success : r.isSuccess = true) (document : r.document = .ok answer)
    (read : Availability.read a.provider batch answer = .ok (.found found)) :
    a.told batch (.answered r) = .ok found := by
  rw [told_answered batch success document, read]
  rfl

theorem tells_realDebrid {a : Account} (provider : a.provider = .realDebrid) {batch : List String}
    {r : Wire.Response} {answer : Value} {held : String → Bool} (success : r.isSuccess = true)
    (document : r.document = .ok answer)
    (honest : Provider.realDebrid.Honest held batch answer) :
    Tells held (a.statuses batch (.answered r)) := by
  obtain ⟨members, rfl, each⟩ := honest
  rw [statuses_realDebrid provider]
  intro row member
  obtain ⟨h, asked, rfl⟩ := List.mem_map.mp member
  obtain ⟨holds, lacks⟩ := each h asked
  show (Availability.variantStatus h (.answered r)).cached = held h
  cases holding : held h with
  | true =>
      obtain ⟨entry, files, found, listed, some⟩ := holds holding
      have offers : Outcome.Offers (.answered r) h files :=
        ⟨r, members, entry, rfl, success, document, found, listed, some⟩
      rw [(Availability.variantStatus_eq_iff h _ files).mpr offers]
  | false =>
      have none : ∀ files, ¬ Outcome.Offers (.answered r) h files := by
        rintro files ⟨s, ms, entry, same, -, read, found, listed, some⟩
        cases same
        rw [document] at read
        cases read
        have empty := lacks holding entry found
        rw [listed] at empty
        cases empty
        exact some rfl
      rw [Availability.variantStatus_eq_uncached none]
      rfl

theorem tells_of_mapM {α : Type} {a : Account} {batch : List String} {r : Wire.Response}
    {answer : Value} {held : String → Bool} {xs : List α} {key : α → String}
    {status : α → Except Fault CacheStatus} (success : r.isSuccess = true)
    (document : r.document = .ok answer)
    (read : Availability.read a.provider batch answer =
      (xs.mapM fun x => do return (key x, ← status x)) >>= fun found => .ok (.found found))
    (keys : xs.map key = batch) (distinct : batch.Nodup)
    (each : ∀ x ∈ xs, ∃ s, status x = .ok s ∧ s.cached = held (key x)) :
    Tells held (a.statuses batch (.answered r)) := by
  have row (x : α) (s : CacheStatus) (told : status x = .ok s) :
      (do return (key x, ← status x) : Except Fault (String × CacheStatus)) = .ok (key x, s) := by
    rw [told]
    rfl
  obtain ⟨found, all⟩ : ∃ found, (xs.mapM fun x => do return (key x, ← status x)) = .ok found := by
    apply exists_mapM_ok
    intro x member
    obtain ⟨s, told, -⟩ := each x member
    exact ⟨(key x, s), row x s told⟩
  have named : found.map (·.1) = batch := by
    rw [← keys]
    apply map_of_mapM_ok (h := all)
    intro x _ y same
    obtain ⟨s, -, made⟩ := ok_of_bind_ok same
    cases made
    rfl
  rw [all] at read
  rw [statuses_of_found (told_of_read success document read) named distinct]
  intro y member
  obtain ⟨x, inside, same⟩ := mem_of_mapM_ok all member
  obtain ⟨s, told, true_to⟩ := each x inside
  rw [row x s told] at same
  cases same
  exact true_to

theorem read_data {members data : List (String × Value)} {success : Value} (batch : List String)
    (successful : members.lookup "success" = some success) (truthy : success.truthy = true)
    (listed : members.lookup "data" = some (.obj data)) :
    Availability.read .torbox batch (.obj members) =
      (batch.mapM fun h => do return (h, ← Availability.statusOfEntry "Torbox"
        (Availability.entryOf? data h))) >>= fun found => .ok (.found found) := by
  simp only [Availability.read, Availability.readMembers, Value.member, Value.memberOrNull,
    successful, listed, Option.getD_some, bind, Except.bind, truthy]
  rfl

theorem entryOf?_isSome {data : List (String × Value)} {h : String} :
    (Availability.entryOf? data h).isSome = true ↔
      ∃ m ∈ data, String.ofList (Text.lower m.1.toList) = h := by
  unfold Availability.entryOf?
  rw [Option.isSome_map, List.find?_isSome]
  constructor
  · rintro ⟨m, member, named⟩
    exact ⟨m, List.mem_reverse.mp member, of_decide_eq_true named⟩
  · rintro ⟨m, member, named⟩
    exact ⟨m, List.mem_reverse.mpr member, decide_eq_true named⟩

theorem mem_of_entryOf? {data : List (String × Value)} {h : String} {v : Value}
    (found : Availability.entryOf? data h = some v) : ∃ m ∈ data, m.2 = v := by
  obtain ⟨m, first, same⟩ := Option.map_eq_some_iff.mp found
  exact ⟨m, List.mem_reverse.mp (List.mem_of_find?_eq_some first), same⟩

theorem tells_torbox {a : Account} (provider : a.provider = .torbox) {batch : List String}
    (distinct : batch.Nodup) {r : Wire.Response} {answer : Value} {held : String → Bool}
    (success : r.isSuccess = true) (document : r.document = .ok answer)
    (honest : Provider.torbox.Honest held batch answer) :
    Tells held (a.statuses batch (.answered r)) := by
  obtain ⟨members, data, rfl, successful, listed, each, files⟩ := honest
  have read := read_data batch successful rfl listed
  rw [← provider] at read
  apply tells_of_mapM success document read (List.map_id batch) distinct
  intro h asked
  have named := (each h asked).trans entryOf?_isSome.symm
  cases entry : Availability.entryOf? data h with
  | none =>
      rw [entry] at named
      refine ⟨_, rfl, ?_⟩
      exact (Bool.eq_false_iff.mpr fun holds => by cases named.mp holds).symm
  | some v =>
      rw [entry] at named
      obtain ⟨m, inside, rfl⟩ := mem_of_entryOf? entry
      obtain ⟨items, list⟩ := filesOf_list (files m inside)
      refine ⟨⟨true, "Torbox", items⟩, ?_, (named.mpr rfl).symm⟩
      rw [Availability.statusOfEntry, list]
      rfl

theorem read_magnets {members data : List (String × Value)} {entries : List Value}
    (batch : List String) (status : members.lookup "status" = some (.str "success"))
    (inside : members.lookup "data" = some (.obj data))
    (listed : data.lookup "magnets" = some (.arr entries)) :
    Availability.read .allDebrid batch (.obj members) =
      ((batch.zip entries).mapM fun pair => do return (pair.1, ← Availability.statusOfMagnet
        "AllDebrid" pair.2)) >>= fun found => .ok (.found found) := by
  have filled : (Value.obj data).truthy = true := by
    cases data with
    | nil => cases listed
    | cons m ms => rfl
  have magnets : Availability.magnetsOf (.obj members) = .ok (.arr entries) := by
    have data : (Value.obj members).memberOrNull "data" = .obj data := by
      rw [Value.memberOrNull, inside]
      rfl
    rw [Availability.magnetsOf, data, if_pos filled, Value.member, listed]
    rfl
  have listing : Availability.filesOf (.arr entries) = .ok entries := by
    cases entries with
    | nil => rfl
    | cons e es => rfl
  have successful : (Value.obj members).member "status" = .ok (.str "success") := by
    rw [Value.member, status]
    rfl
  rw [Availability.read, Availability.readMagnets_eq, successful, magnets]
  show (Availability.filesOf (.arr entries) >>= _) >>= _ = _
  rw [listing]
  rfl

theorem isInstant_iff {entry : List (String × Value)} :
    Availability.isInstant ((Value.obj entry).memberOrNull "instant") = true ↔
      entry.lookup "instant" = some (.bool true) := by
  rw [Value.memberOrNull]
  constructor
  · intro instant
    cases found : entry.lookup "instant" with
    | none =>
        rw [found] at instant
        cases instant
    | some v =>
        rw [found] at instant
        cases v with
        | bool b => exact congrArg (fun b => some (Value.bool b)) instant
        | _ => cases instant
  · intro found
    rw [found]
    rfl

theorem tells_allDebrid {a : Account} (provider : a.provider = .allDebrid) {batch : List String}
    (distinct : batch.Nodup) {r : Wire.Response} {answer : Value} {held : String → Bool}
    (success : r.isSuccess = true) (document : r.document = .ok answer)
    (honest : Provider.allDebrid.Honest held batch answer) :
    Tells held (a.statuses batch (.answered r)) := by
  obtain ⟨members, data, entries, rfl, status, inside, listed, same, each⟩ := honest
  have read := read_magnets batch status inside listed
  rw [← provider] at read
  apply tells_of_mapM success document read (List.map_fst_zip (Nat.le_of_eq same.symm)) distinct
  intro pair member
  obtain ⟨files, entry, object, instant⟩ := each pair member
  obtain ⟨items, list⟩ := filesOf_list files
  rw [object] at list
  refine ⟨⟨Availability.isInstant ((Value.obj entry).memberOrNull "instant"), "AllDebrid", items⟩,
    ?_, ?_⟩
  · rw [object, Availability.statusOfMagnet, list]
    rfl
  · exact Bool.eq_iff_iff.mpr (isInstant_iff.trans instant)

/-- Honest answers are read as they are meant. -/
theorem tells_honest {a : Account} {batch : List String} (distinct : batch.Nodup)
    {r : Wire.Response} {answer : Value} {held : String → Bool} (success : r.isSuccess = true)
    (document : r.document = .ok answer) (honest : a.provider.Honest held batch answer) :
    Tells held (a.statuses batch (.answered r)) := by
  cases provider : a.provider with
  | realDebrid => exact tells_realDebrid provider success document (provider ▸ honest)
  | torbox => exact tells_torbox provider distinct success document (provider ▸ honest)
  | allDebrid => exact tells_allDebrid provider distinct success document (provider ▸ honest)

theorem AnsweredHonestly.met {a : Account} {c : Client} {held : String → Bool}
    {hashes : List String} (answered : a.AnsweredHonestly c held hashes) :
    ∀ e ∈ (a.check (.arr (hashes.map .str))).dialogue c, e.2 ≠ .failed .cancelled := by
  intro e said
  obtain ⟨r, -, response, -⟩ := answered e said
  exact Outcome.met_of_answered response

/-- No request stays behind, so every batch is answered, and honestly for its own hashes. -/
theorem AnsweredHonestly.of_paired {a : Account} (regular : a.Regular) {c : Client}
    (reaches : a.Reaches c) {hashes : List String}
    (plain : ∀ h ∈ Hash.asked hashes, Hash.Plain h) {held : String → Bool}
    (answered : a.AnsweredHonestly c held hashes) {b : List String} {o : Outcome}
    (paired : (b, o) ∈ (a.batches (Hash.asked hashes)).zip
      (a.outcomes c (a.batches (Hash.asked hashes)))) :
    ∃ r answer, o = .answered r ∧ r.isSuccess = true ∧ r.document = .ok answer ∧
      a.provider.Honest held b answer := by
  have batch := (List.of_mem_zip paired).1
  have part := subset_of_mem_batches regular.size batch
  obtain ⟨sent, prepared⟩ := question_sendable reaches
    (fun provider => length_le_of_mem_batches regular.size (regular.limit provider) batch)
    fun h asked => plain h (part asked)
  have exchanged : a.exchange c (b, o) = some (sent, o) := by
    rw [exchange, reaches.isOpen, prepared]
    rfl
  have said : (sent, o) ∈ (a.check (.arr (hashes.map .str))).dialogue c := by
    rw [dialogue_check regular answered.met]
    exact List.mem_filterMap.mpr ⟨(b, o), paired, exchanged⟩
  obtain ⟨r, answer, response, success, document, honest⟩ := answered (sent, o) said
  rw [inquired_question (ne_nil_of_mem_batches regular.size batch) (fun h asked => plain h (part asked))
    prepared] at honest
  exact ⟨r, answer, response, success, document, honest⟩

/-- A check that is answered honestly has each hash asked for once, cached if and only if it is held. -/
theorem check_honest {a : Account} (regular : a.Regular) {c : Client} (reaches : a.Reaches c)
    {hashes : List String} (plain : ∀ h ∈ Hash.asked hashes, Hash.Plain h) {held : String → Bool}
    (answered : a.AnsweredHonestly c held hashes) :
    ∃ results after said, (a.check (.arr (hashes.map .str))).Ends c (.ok results) after said ∧
      results.map (·.1) = Hash.asked hashes ∧ Tells held results := by
  have met := outcomes_of_check regular answered.met
  refine ⟨_, _, _, check_ends regular hashes met, ?_, ?_⟩
  · rw [a.keys_reference (a.length_outcomes c _), flatten_batches regular.size]
  · intro row member
    obtain ⟨⟨b, o⟩, paired, inside⟩ := List.mem_flatMap.mp member
    obtain ⟨r, answer, rfl, success, document, honest⟩ :=
      answered.of_paired regular reaches plain paired
    have batch := List.sublist_flatten_of_mem (List.of_mem_zip paired).1
    rw [flatten_batches regular.size] at batch
    have distinct := (Hash.nodup_asked hashes).sublist batch
    exact tells_honest distinct success document honest row inside

/-- A transport whose one answer is honest for every batch answers the check honestly. -/
theorem answeredHonestly_always {a : Account} (regular : a.Regular) {hashes : List String}
    (plain : ∀ h ∈ Hash.asked hashes, Hash.Plain h) {r : Wire.Response} {answer : Value}
    (success : r.isSuccess = true) (document : r.document = .ok answer) {held : String → Bool}
    (honest : ∀ b ∈ a.batches (Hash.asked hashes), a.provider.Honest held b answer) :
    a.AnsweredHonestly ⟨false, [], .answered r⟩ held hashes := by
  have always := Exchange.dialogue_always (a.check (.arr (hashes.map .str))) (o := .answered r)
  intro e said
  refine ⟨r, answer, always e said, success, document, ?_⟩
  have met := fun e said => Outcome.met_of_answered (always e said)
  obtain ⟨b, batch, prepared⟩ := question_of_dialogue regular met said
  have part := subset_of_mem_batches regular.size batch
  rw [inquired_question (ne_nil_of_mem_batches regular.size batch) (fun h asked => plain h (part asked))
    prepared]
  exact honest b batch

end Account
end DebridCache
