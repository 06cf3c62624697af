import DebridCache.Proofs.Availability.Sendable
import DebridCache.Proofs.Availability.Steadfast
import DebridCache.Proofs.Availability.Totality
import DebridCache.Proofs.Composed

/-!
When a check asks, and for what. A batch is one request at most and no pause, so the events of a check
are the requests of its batches with one pause between each two, whatever the outcomes. What the
provider finds in these requests are the batches themselves.
-/

namespace DebridCache

open Wire (Sent Outcome Request)

variable {α : Type}

theorem intercalate_cons (mark part : List α) (rest : List (List α)) :
    mark.intercalate (part :: rest) = part ++ rest.flatMap (mark ++ ·) := by
  induction rest generalizing part with
  | nil => simp
  | cons next more ih => simp [List.intercalate_cons_cons, ih]

theorem intercalate_singletons (mark : α) (items : List α) :
    [mark].intercalate (items.map fun item => [item]) = items.intersperse mark := by
  induction items with
  | nil => rfl
  | cons item rest ih =>
      cases rest with
      | nil => simp
      | cons next more =>
          rw [List.map_cons, List.map_cons, List.intercalate_cons_cons, List.intersperse_cons_cons,
            ← ih]
          rfl

namespace Account

/-- What can be seen of a batch: its request, if that goes out. -/
def shown (a : Account) (c : Client) (batch : List String) : List Event :=
  if c.isClosed then [] else (a.question batch).prepare.toOption.toList.map .sent

theorem shown_eq (a : Account) (c : Client) (batch : List String) :
    (c.asking (a.question batch)).map (fun e => Event.sent e.1) = a.shown c batch := by
  unfold shown Client.asking Client.exchanged
  cases (a.question batch).prepare <;> cases c.isClosed <;> rfl

theorem shown_afterAsk (a : Account) (c : Client) (r : Request) :
    a.shown (c.afterAsk r) = a.shown c := by
  funext batch
  rw [shown, shown, Client.isClosed_afterAsk]

/-- What can be seen between two batches. -/
def pause (a : Account) : List Event :=
  if Batch.waits a.batchDelay then [.slept a.batchDelay] else []

theorem events_spaced {a : Account} (regular : a.Regular) (total index : Nat)
    (batch : List String) (bs : List (List String)) (start : ResultMap) {c : Client}
    (met : c.ask (a.question batch) ≠ .failed .cancelled) :
    ∃ next, (((Batch.spaced a.batchDelay total index (batch :: bs)).consume a.tryBatch start).run
        c).events =
      (if index = 0 then [] else a.pause) ++ (a.shown c batch ++
        (((Batch.spaced a.batchDelay total (index + 1) bs).consume a.tryBatch next).run
          (c.afterAsk (a.question batch))).events) := by
  have tried := a.tryBatch_ends start batch met
  have asked : ((a.tryBatch start batch).run c).events = a.shown c batch := by
    rw [(a.tryBatch_composed start batch).wakeful.events, tried.dialogue, shown_eq]
  obtain ⟨delay, float⟩ := regular.delay
  obtain ⟨e, fed⟩ := consume_cons a.tryBatch start delay total index batch bs
  have rest := Exchange.events_bind (a.tryBatch start batch) (fun found =>
    (Batch.spaced (.float delay) total (index + 1) bs).consume a.tryBatch found) c
  rw [asked, tried.result, tried.client] at rest
  refine ⟨ResultMap.overlay (a.found batch (c.ask (a.question batch))) start, ?_⟩
  rw [pause, float, fed]
  by_cases first : index = 0
  · rw [if_pos (.inl first), if_pos first]
    exact rest
  · rw [if_neg first]
    cases waiting : Batch.waits (.float delay) with
    | false =>
        rw [if_pos (.inr rfl)]
        exact rest
    | true =>
        rw [if_neg (by simp [first])]
        exact congrArg (Event.slept (.float delay) :: ·) rest

theorem events_later {a : Account} (regular : a.Regular) (total index : Nat)
    (bs : List (List String)) (start : ResultMap) {c : Client} (steady : c.Steady) :
    (((Batch.spaced a.batchDelay total (index + 1) bs).consume a.tryBatch start).run c).events =
      bs.flatMap fun b => a.pause ++ a.shown c b := by
  induction bs generalizing index start c with
  | nil => rfl
  | cons b bs ih =>
      obtain ⟨next, events⟩ :=
        events_spaced regular total (index + 1) b bs start (steady.ask (a.question b))
      rw [events, ih (index + 1) next (steady.afterAsk _), shown_afterAsk, List.flatMap_cons,
        List.append_assoc]
      rfl

/-- What can be seen of a check are its batches with the pause between each two. No outcome changes
it. -/
theorem events_check {a : Account} (regular : a.Regular) (hashes : List String) {c : Client}
    (steady : c.Steady) :
    ((a.check (.arr (hashes.map .str))).run c).events =
      a.pause.intercalate ((a.batches (Hash.asked hashes)).map (a.shown c)) := by
  unfold check
  rw [Hash.unique_texts]
  cases asked : Hash.asked hashes with
  | nil =>
      have none : a.batches [] = [] := Batch.chunks_nil _
      rw [none]
      rfl
  | cons h hs =>
      show ((a.checkHashes (h :: hs)).run c).events = _
      unfold checkHashes
      rw [feed_eq_spaced regular.size (List.cons_ne_nil h hs), Exchange.events_bind_quiet fun _ _ => rfl]
      cases batches : a.batches (h :: hs) with
      | nil => rfl
      | cons b bs =>
          obtain ⟨next, events⟩ := events_spaced regular (bs.length + 1) 0 b bs
            ((h :: hs).map fun h => (h, .uncached a.name)) (steady.ask (a.question b))
          rw [List.length_cons, events, events_later regular _ 0 bs next (steady.afterAsk _),
            shown_afterAsk, List.map_cons, intercalate_cons, List.flatMap_map]
          rfl

/-- An account whose header and query can be sent asks about each of its batches in turn. -/
theorem requests_of_reaches {a : Account} (regular : a.Regular) {c : Client} (reaches : a.Reaches c)
    (steady : c.Steady) {hashes : List String} (plain : ∀ h ∈ Hash.asked hashes, Hash.Plain h) :
    ∃ requests : List Sent,
      ((a.check (.arr (hashes.map .str))).run c).events =
        a.pause.intercalate (requests.map fun sent => [.sent sent]) ∧
      requests.map (Provider.inquired a.provider) = a.batches (Hash.asked hashes) := by
  have plainly {b : List String} (batch : b ∈ a.batches (Hash.asked hashes)) :
      ∀ h ∈ b, Hash.Plain h :=
    fun h member => plain h (subset_of_mem_batches regular.size batch member)
  obtain ⟨requests, all⟩ : ∃ requests,
      (a.batches (Hash.asked hashes)).mapM (fun b => (a.question b).prepare) = .ok requests :=
    exists_mapM_ok fun b batch => question_sendable reaches
      (fun provider => length_le_of_mem_batches regular.size (regular.limit provider) batch) (plainly batch)
  have shown : requests.map (fun sent => [Event.sent sent]) =
      (a.batches (Hash.asked hashes)).map (a.shown c) := by
    apply map_of_mapM_ok (h := all)
    intro b _ sent prepared
    rw [Account.shown, reaches.isOpen, prepared]
    rfl
  refine ⟨requests, ?_, ?_⟩
  · rw [events_check regular hashes steady, shown]
  · rw [← List.map_id (a.batches _)]
    apply map_of_mapM_ok (h := all)
    intro b batch sent prepared
    exact inquired_question (ne_nil_of_mem_batches regular.size batch) (plainly batch) prepared

/-- Where the query is too long no question can be sent. -/
theorem question_overlong {a : Account}
    (long : Wire.longest < (Wire.encodeFields a.queryFields).length) (batch : List String) :
    ∃ f, (a.question batch).prepare = .error f := by
  have fields : a.queryFields ≠ [] := by
    intro none
    rw [none] at long
    cases long
  have named : (a.question batch).query = some a.queryFields := by
    unfold question
    cases a.provider <;> exact if_neg (by simpa using fields)
  cases prepared : (a.question batch).prepare with
  | error f => exact ⟨f, rfl⟩
  | ok sent =>
      unfold Wire.Request.prepare at prepared
      obtain ⟨address, -, prepared⟩ := ok_of_bind_ok prepared
      obtain ⟨-, -, prepared⟩ := ok_of_bind_ok prepared
      rw [named] at prepared
      obtain ⟨full, taken, -⟩ := ok_of_bind_ok prepared
      simp only [Wire.Address.withFields, if_pos long] at taken
      split at taken <;> cases taken

theorem outcomes_overlong {a : Account}
    (long : Wire.longest < (Wire.encodeFields a.queryFields).length) (c : Client)
    (bs : List (List String)) : ∀ o ∈ a.outcomes c bs, o.Failed := by
  induction bs generalizing c with
  | nil =>
      intro o member
      cases member
  | cons b bs ih =>
      intro o member
      rcases List.mem_cons.mp member with rfl | later
      · obtain ⟨f, unsent⟩ := question_overlong long b
        rw [Client.ask, unsent]
        trivial
      · exact ih _ o later

/-- Where the query is too long a check finds nothing, whatever the transport would answer. -/
theorem check_overlong {a : Account} (regular : a.Regular)
    (long : Wire.longest < (Wire.encodeFields a.queryFields).length) (hashes : List String) {c : Client}
    (steady : c.Steady) : ∃ after said,
      (a.check (.arr (hashes.map .str))).Ends c (.ok (a.unknown (Hash.asked hashes))) after said := by
  have ends := check_ends regular hashes (a.outcomes_steady steady _)
  rw [a.reference_of_failed (a.length_outcomes c _) (outcomes_overlong long c _),
    flatten_batches regular.size] at ends
  exact ⟨_, _, ends⟩

/-- Limits that an account can hold: at Real-Debrid some hashes at a time with some delay between two
requests, at the other two none. -/
structure Limited (a : Account) (size : Nat) (delay : Binary64) : Prop where
  least : 1 ≤ size
  most : size ≤ 40
  realDebrid : a.provider = .realDebrid → a.batchSize = .int size ∧ a.batchDelay = .float delay
  others : a.provider ≠ .realDebrid → a.batchSize = .null ∧ a.batchDelay = .float (.ofNat 0)

theorem Limited.regular {a : Account} {size : Nat} {delay : Binary64} (limited : a.Limited size delay) :
    a.Regular := by
  have least := limited.least
  have most := limited.most
  by_cases provider : a.provider = .realDebrid
  · obtain ⟨held, waited⟩ := limited.realDebrid provider
    exact ⟨.inr ⟨size, by omega, held⟩, ⟨delay, waited⟩, fun _ => ⟨size, by
      show (size : Int) ≤ 40
      omega, held⟩⟩
  · obtain ⟨held, waited⟩ := limited.others provider
    exact ⟨.inl held, ⟨_, waited⟩, fun same => absurd same provider⟩

theorem Limited.batches {a : Account} {size : Nat} {delay : Binary64} (limited : a.Limited size delay)
    (hashes : List String) : a.batches hashes =
      Batch.chunks (if a.provider = .realDebrid then size else hashes.length) hashes := by
  unfold Account.batches stride
  by_cases provider : a.provider = .realDebrid
  · rw [if_pos provider, (limited.realDebrid provider).1]
    rfl
  · rw [if_neg provider, (limited.others provider).1]

theorem Limited.pause_of_others {a : Account} {size : Nat} {delay : Binary64}
    (limited : a.Limited size delay) (provider : a.provider ≠ .realDebrid) : a.pause = [] := by
  have still : Batch.waits (.float (.ofNat 0)) = false := by
    simp only [Batch.waits, Value.greater, Value.place?, Binary64.ofNat, Binary64.place,
      Binary64.placeOfInt, Place.lt, Nat.zero_mul, Int.zero_mul]
    rfl
  rw [pause, (limited.others provider).2, still]
  rfl

theorem Limited.pause_of_realDebrid {a : Account} {size : Nat} {delay : Binary64}
    (limited : a.Limited size delay) (provider : a.provider = .realDebrid)
    (positive : (Value.int 0).less (.float delay) = .ok true) :
    a.pause = [.slept (.float delay)] := by
  have waiting : Batch.waits (.float delay) = true := by
    rw [Batch.waits, show (Value.float delay).greater (.int 0) = .ok true from positive]
  rw [pause, (limited.realDebrid provider).2, if_pos waiting]

theorem Limited.length_batches {a : Account} {size : Nat} {delay : Binary64}
    (limited : a.Limited size delay) {hashes : List String} (some : hashes ≠ []) :
    (a.batches hashes).length =
      if a.provider = .realDebrid then (hashes.length + size - 1) / size else 1 := by
  by_cases provider : a.provider = .realDebrid
  · have least := limited.least
    rw [if_pos provider, limited.batches, if_pos provider]
    exact Batch.length_chunks (by omega) hashes
  · rw [if_neg provider, batches_whole (limited.others provider).1 some]
    rfl

/-- The events of a check, with the requests read back: one for each batch, but none at all where the
query is too long. -/
theorem Limited.requests {a : Account} {size : Nat} {delay : Binary64}
    (limited : a.Limited size delay) {key : String} (credential : a.credential = .str key)
    (ascii : ∀ ch ∈ key.toList, ch.toNat < 128) {hashes : List String}
    (plain : ∀ h ∈ Hash.asked hashes, Hash.Plain h) {c : Client} (isOpen : c.isClosed = false)
    (steady : c.Steady) :
    ∃ requests : List Sent,
      ((a.check (.arr (hashes.map .str))).run c).events =
        a.pause.intercalate (requests.map fun sent => [.sent sent]) ∧
      requests.map (Provider.inquired a.provider) =
        if Wire.longest < (Wire.encodeFields a.queryFields).length then []
        else a.batches (Hash.asked hashes) := by
  by_cases long : Wire.longest < (Wire.encodeFields a.queryFields).length
  · rw [if_pos long]
    refine ⟨[], ?_, rfl⟩
    have other : a.provider ≠ .realDebrid := by
      intro provider
      rw [queryFields, provider] at long
      cases long
    have unseen : a.shown c = fun _ => [] := by
      funext b
      obtain ⟨f, refused⟩ := question_overlong long b
      rw [shown, isOpen, refused]
      rfl
    rw [events_check limited.regular hashes steady, limited.pause_of_others other, unseen]
    cases a.batches (Hash.asked hashes) with
    | nil => rfl
    | cons b bs => simp [intercalate_cons]
  · rw [if_neg long]
    exact requests_of_reaches limited.regular
      ⟨isOpen, checkHeader_authorization credential ascii, Nat.le_of_not_lt long⟩ steady plain

/-- A check sends as many requests as it has batches, with the delay between each two and at no other
time, whatever the outcomes. Without a limit that is one request, but AllDebrid's agent and key stand in
the address, and one that is too long is never sent. -/
theorem check_schedule {a : Account} {size : Nat} {delay : Binary64} (limited : a.Limited size delay)
    (positive : (Value.int 0).less (.float delay) = .ok true) {key : String}
    (credential : a.credential = .str key) (ascii : ∀ ch ∈ key.toList, ch.toNat < 128)
    {hashes u : List String} (unique : Hash.unique (.arr (hashes.map .str)) = .ok u) (some : u ≠ [])
    (plain : ∀ h ∈ u, Hash.Plain h) {c : Client} (isOpen : c.isClosed = false)
    (steady : c.Steady) :
    ∃ requests : List Sent,
      ((a.check (.arr (hashes.map .str))).run c).events =
        (requests.map .sent).intersperse (.slept (.float delay)) ∧
      requests.length =
        if Wire.longest < (Wire.encodeFields a.queryFields).length then 0
        else if a.provider = .realDebrid then (u.length + size - 1) / size else 1 := by
  rw [Hash.unique_texts] at unique
  cases unique
  obtain ⟨requests, events, read⟩ := limited.requests credential ascii plain isOpen steady
  have count := congrArg List.length read
  rw [List.length_map, apply_ite List.length, List.length_nil, limited.length_batches some] at count
  refine ⟨requests, ?_, count⟩
  rw [events]
  by_cases provider : a.provider = .realDebrid
  · rw [limited.pause_of_realDebrid provider positive, ← intercalate_singletons, List.map_map]
    rfl
  · rw [limited.pause_of_others provider]
    rw [if_neg provider] at count
    -- without a limit there are no two requests for a pause to stand between
    match requests with
    | [] => rfl
    | [sent] => rfl
    | sent :: other :: more =>
        rw [List.length_cons, List.length_cons] at count
        split at count <;> omega

theorem check_schedule_of_five :
    ∃ requests : List Sent,
      (((⟨.realDebrid, .str "key", .null, .int 2, .float .half, .null⟩ : Account).check
        (.arr (["AA", "bb", "cc", "Bb", "dd", "ee"].map .str))).run
          ⟨false, [.failed (.transport "ReadTimeout" ""), .answered ⟨500, [], 1000⟩],
            .answered ⟨200, [123, 125], 1000⟩⟩).events =
        (requests.map .sent).intersperse (.slept (.float .half)) ∧
      requests.length = 3 := by
  have limited : (⟨.realDebrid, .str "key", .null, .int 2, .float .half, .null⟩ : Account).Limited 2
      .half := ⟨by decide, by decide, fun _ => ⟨rfl, rfl⟩, fun other => absurd rfl other⟩
  have above : (Binary64.placeOfInt 0).lt Binary64.half.place = true := by decide +kernel
  have positive : (Value.int 0).less (.float .half) = .ok true := congrArg Except.ok above
  have steady : Client.Steady ⟨false, [.failed (.transport "ReadTimeout" ""), .answered ⟨500, [], 1000⟩],
      .answered ⟨200, [123, 125], 1000⟩⟩ := by
    refine ⟨?_, Outcome.met_of_answered rfl⟩
    intro o member
    rcases List.mem_cons.mp member with rfl | later
    · intro same
      cases same
    · exact Outcome.met_of_answered (List.mem_singleton.mp later)
  have unique : Hash.unique (.arr (["AA", "bb", "cc", "Bb", "dd", "ee"].map .str)) =
      .ok ["aa", "bb", "cc", "dd", "ee"] := rfl
  exact check_schedule limited positive rfl (Wire.forall_of_all (by decide)) unique (by decide)
    (by decide) rfl steady

def introduced (agent key : String) : Account :=
  ⟨.allDebrid, .str key, .null, .null, .float (.ofNat 0), .str agent⟩

theorem introduced_limited (agent key : String) : (introduced agent key).Limited 1 .half :=
  ⟨Nat.le_refl 1, by decide, (by intro same; cases same), fun _ => ⟨rfl, rfl⟩⟩

def keyed (key : String) : Account :=
  ⟨.allDebrid, .str key, .null, .null, .float (.ofNat 0), .str defaultAgent⟩

theorem create_keyed (key : String) :
    create .allDebrid ⟨.str key, .null, .null, .null, .str defaultAgent⟩ = .ok (keyed key) := rfl

theorem keyed_limited (key : String) : (keyed key).Limited 1 .half :=
  introduced_limited defaultAgent key

theorem length_lt_query (key : String) :
    key.length < (Wire.encodeFields (keyed key).queryFields).length := by
  have fields : Wire.encodeFields (keyed key).queryFields =
      Wire.formText "agent" ++ '=' :: Wire.formText defaultAgent ++ '&' ::
        (Wire.formText "apikey" ++ '=' :: Wire.formText key) := rfl
  have carried := Wire.length_le_formText key
  rw [fields]
  simp only [List.length_append, List.length_cons]
  omega

theorem events_keyed {key : String} (ascii : ∀ ch ∈ key.toList, ch.toNat < 128)
    (long : key.length = Wire.longest) (hashes : List String)
    (plain : ∀ h ∈ Hash.asked hashes, Hash.Plain h) {c : Client} (isOpen : c.isClosed = false)
    (steady : c.Steady) : (((keyed key).check (.arr (hashes.map .str))).run c).events = [] := by
  obtain ⟨requests, events, read⟩ :=
    (keyed_limited key).requests rfl ascii plain isOpen steady
  rw [if_pos (long ▸ length_lt_query key), List.map_eq_nil_iff] at read
  rw [events, read]
  rfl

/-- A key that no address can carry. -/
def longKey : String := String.ofList (List.replicate Wire.longest 'k')

theorem longKey_ascii : ∀ ch ∈ longKey.toList, ch.toNat < 128 := Wire.forall_repeated (by decide) _

theorem length_longKey : longKey.length = Wire.longest := Wire.length_repeated ..

/-- A key can be too long for any request to go out, whatever its characters. -/
theorem check_schedule_not_sent :
    create .allDebrid ⟨.str longKey, .null, .null, .null, .str defaultAgent⟩ =
        .ok (keyed longKey) ∧
      (∀ ch ∈ longKey.toList, ch.toNat < 128) ∧
      Hash.unique (.arr [.str "aa"]) = .ok ["aa"] ∧ Hash.Plain "aa" ∧
      ∃ c : Client, c.isClosed = false ∧ c.Steady ∧
        (((keyed longKey).check (.arr [.str "aa"])).run c).events = [] := by
  have steady : Client.Steady ⟨false, [], .answered ⟨200, [123, 125], 1000⟩⟩ :=
    Client.steady_always (Outcome.met_of_answered rfl)
  exact ⟨create_keyed longKey, longKey_ascii, rfl, by decide, _, rfl, steady,
    events_keyed longKey_ascii length_longKey ["aa"] (by decide) rfl steady⟩

theorem requests_intercalate (a : Account) (requests : List Sent) :
    (a.pause.intercalate (requests.map fun sent => [.sent sent])).filterMap Event.request? =
      requests := by
  have paused : a.pause.filterMap Event.request? = [] := by
    unfold pause
    split <;> rfl
  cases requests with
  | nil => rfl
  | cons sent rest =>
      have later : (rest.flatMap fun sent => a.pause ++ [.sent sent]).filterMap Event.request? =
          rest := by
        induction rest with
        | nil => rfl
        | cons next more ih =>
            rw [List.flatMap_cons, List.filterMap_append, List.filterMap_append, paused, ih]
            rfl
      rw [List.map_cons, intercalate_cons, List.flatMap_map]
      exact congrArg (sent :: ·) later

/-- What a provider finds in the requests of a check, one after another, are the batches of the hashes
asked for, so each of them is asked for once. Where the query is too long nothing is asked. -/
theorem check_requests {a : Account} {size : Nat} {delay : Binary64} (limited : a.Limited size delay)
    {key : String} (credential : a.credential = .str key) (ascii : ∀ ch ∈ key.toList, ch.toNat < 128)
    {hashes u : List String} (unique : Hash.unique (.arr (hashes.map .str)) = .ok u)
    (plain : ∀ h ∈ u, Hash.Plain h) {c : Client} (isOpen : c.isClosed = false)
    (steady : c.Steady) :
    (((a.check (.arr (hashes.map .str))).run c).events.filterMap Event.request?).map
        (Provider.inquired a.provider) =
      (if Wire.longest < (Wire.encodeFields a.queryFields).length then []
      else Batch.chunks (if a.provider = .realDebrid then size else u.length) u) ∧
    (Batch.chunks (if a.provider = .realDebrid then size else u.length) u).flatten = u ∧
    u.Nodup := by
  rw [Hash.unique_texts] at unique
  cases unique
  obtain ⟨requests, events, read⟩ := limited.requests credential ascii plain isOpen steady
  have whole := flatten_batches limited.regular.size (Hash.asked hashes)
  rw [limited.batches] at read whole
  rw [events, requests_intercalate, read]
  exact ⟨rfl, whole, Hash.nodup_asked hashes⟩

theorem check_requests_of_three :
    ((((⟨.allDebrid, .str "key", .null, .null, .float (.ofNat 0), .str "me & you"⟩ : Account).check
        (.arr (["AA", " bb", "Aa", "c3"].map .str))).run
          ⟨false, [], .failed (.transport "ReadTimeout" "")⟩).events.filterMap
        Event.request?).map (Provider.inquired .allDebrid) = [["aa", "bb", "c3"]] := by
  have limited : (⟨.allDebrid, .str "key", .null, .null, .float (.ofNat 0),
      .str "me & you"⟩ : Account).Limited 1 .half :=
    ⟨Nat.le_refl 1, by decide, (by intro same; cases same), fun _ => ⟨rfl, rfl⟩⟩
  have steady : Client.Steady ⟨false, [], .failed (.transport "ReadTimeout" "")⟩ :=
    Client.steady_always (by intro same; cases same)
  have unique : Hash.unique (.arr (["AA", " bb", "Aa", "c3"].map .str)) = .ok ["aa", "bb", "c3"] :=
    rfl
  have found := check_requests limited rfl (Wire.forall_of_all (by decide)) unique (by decide) rfl
    steady
  have whole : Batch.chunks 3 ["aa", "bb", "c3"] = [["aa", "bb", "c3"]] := by
    rw [Batch.chunks_cons (by decide) (by decide)]
    exact congrArg ([_] ++ ·) (Batch.chunks_nil 3)
  exact found.1.trans whole

theorem check_requests_not_asked :
    create .allDebrid ⟨.str longKey, .null, .null, .null, .str defaultAgent⟩ =
        .ok (keyed longKey) ∧
      (∀ ch ∈ longKey.toList, ch.toNat < 128) ∧
      Hash.unique (.arr [.str "aa", .str "bb"]) = .ok ["aa", "bb"] ∧
      Hash.Plain "aa" ∧ Hash.Plain "bb" ∧
      ∃ c : Client, c.isClosed = false ∧ c.Steady ∧
        ((((keyed longKey).check (.arr [.str "aa", .str "bb"])).run c).events.filterMap
          Event.request?).map (Provider.inquired .allDebrid) ≠ Batch.chunks 2 ["aa", "bb"] := by
  have steady : Client.Steady ⟨false, [], .failed (.transport "ConnectError" "")⟩ :=
    Client.steady_always (by intro same; cases same)
  refine ⟨create_keyed longKey, longKey_ascii, rfl, by decide, by decide, _, rfl, steady, ?_⟩
  have silent := events_keyed longKey_ascii length_longKey ["aa", "bb"] (by decide) rfl
    steady
  change ((((keyed longKey).check (.arr (["aa", "bb"].map .str))).run _).events.filterMap _).map _ ≠ _
  rw [silent, Batch.chunks_cons (by decide) (by decide)]
  exact (List.cons_ne_nil _ _).symm

end Account
end DebridCache
