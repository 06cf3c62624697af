import DebridCache.Proofs.Title.Lookup

/-!
Pairs that a caller can have: each identifier and the kind is known or missing. Which half is known says
whether there is a request and for what, and what is known already is in the pair that comes back.
-/

namespace DebridCache

open Wire (Request Sent Fields Outcome)

def Value.ofInt? : Option Int → Value
  | some n => .int n
  | none => .null

namespace IdentifierPair

def known (imdb : Option String) (tmdb : Option Int) (kind : Option MediaKind) : IdentifierPair :=
  ⟨.ofString? imdb, .ofInt? tmdb, .ofKind? kind⟩

/-- A pair that has all that was known. -/
structure Has (imdb : Option String) (tmdb : Option Int) (kind : Option MediaKind)
    (found : IdentifierPair) : Prop where
  imdb : ∀ i, imdb = some i → i ≠ "" → found.imdb = .str i
  tmdb : ∀ t, tmdb = some t → t ≠ 0 → found.tmdb = .int t
  kind : ∀ k, kind = some k → found.kind = .kind k

theorem Has.of_blank {imdb : Option String} {tmdb : Option Int} {kind : Option MediaKind}
    {found : IdentifierPair} (name : found.imdb = .ofString? imdb ∨ imdb.getD "" = "")
    (number : found.tmdb = .ofInt? tmdb ∨ tmdb.getD 0 = 0)
    (label : found.kind = .ofKind? kind ∨ kind = none) : Has imdb tmdb kind found := by
  constructor
  · rintro i rfl given
    exact name.resolve_right given
  · rintro t rfl given
    exact number.resolve_right given
  · rintro k rfl
    exact label.resolve_right nofun

theorem Has.known (imdb : Option String) (tmdb : Option Int) (kind : Option MediaKind) :
    Has imdb tmdb kind (known imdb tmdb kind) :=
  .of_blank (.inl rfl) (.inl rfl) (.inl rfl)

end IdentifierPair

namespace TitleDatabase

open IdentifierPair (known Has)

/-- The path and the field with which the missing half of a pair is looked up. -/
inductive LooksUp : Option String → Option Int → Option MediaKind → String → Fields → Prop
  | byImdb {imdb : String} {tmdb : Option Int} {kind : Option MediaKind} :
    imdb.startsWith "tt" = true → tmdb.getD 0 = 0 →
    LooksUp (some imdb) tmdb kind (pathTo "find" imdb) [("external_source", .str "imdb_id")]
  | byTmdb {imdb : Option String} {tmdb : Int} {kind : MediaKind} :
    imdb.getD "" = "" → tmdb ≠ 0 →
    LooksUp imdb (some tmdb) (some kind) (pathTo kind.shelf (toString tmdb))
      [("append_to_response", .str "external_ids")]

theorem LooksUp.same {imdb : Option String} {tmdb : Option Int} {kind : Option MediaKind}
    {path path' : String} {fields fields' : Fields} (one : LooksUp imdb tmdb kind path fields)
    (other : LooksUp imdb tmdb kind path' fields') : path = path' ∧ fields = fields' := by
  cases one with
  | byImdb marked blank =>
      cases other with
      | byImdb marked' blank' => exact ⟨rfl, rfl⟩
      | byTmdb blank' nonzero => exact absurd blank nonzero
  | byTmdb blank nonzero =>
      cases other with
      | byImdb marked' blank' => exact absurd blank' nonzero
      | byTmdb blank' nonzero' => exact ⟨rfl, rfl⟩

variable {imdb : Option String} {tmdb : Option Int} {kind : Option MediaKind}

theorem truthy_ofString (imdb : Option String) :
    (Value.ofString? imdb).truthy = decide (imdb.getD "" ≠ "") := by
  cases imdb <;> rfl

theorem truthy_ofInt (tmdb : Option Int) : (Value.ofInt? tmdb).truthy = decide (tmdb.getD 0 ≠ 0) := by
  cases tmdb <;> rfl

theorem spell_known (imdb : Option String) (tmdb : Option Int) (kind : Option MediaKind)
    (brief : Text.isBrief (tmdb.getD 0) = true) : ∃ words, (known imdb tmdb kind).spell = .ok words := by
  have imdb : (Value.ofString? imdb).isBrief = true := by cases imdb <;> rfl
  have tmdb : (Value.ofInt? tmdb).isBrief = true := by
    cases tmdb with
    | none => rfl
    | some t => exact brief
  have label : (KindLabel.ofKind? kind).value.isBrief = true := by cases kind <;> rfl
  exact ⟨_, if_pos (Bool.and_eq_true_iff.mpr ⟨Bool.and_eq_true_iff.mpr ⟨imdb, tmdb⟩, label⟩)⟩

theorem orElse_ofKind (kind other : Option MediaKind) :
    (KindLabel.ofKind? kind).orElse (.ofKind? other) = .ofKind? (kind.or other) := by
  cases kind <;> rfl

/-- The pair of an IMDb identifier with what a document says of the title, or else as it was. -/
def byImdb (imdb : String) (tmdb : Option Int) (kind : Option MediaKind) (answer : Value) :
    IdentifierPair :=
  ((readTitle answer).map fun found =>
    ⟨.str imdb, found.1, .ofKind? (kind.or found.2)⟩).toOption.getD (known (some imdb) tmdb kind)

def byTmdb (imdb : Option String) (tmdb : Int) (kind : MediaKind) (answer : Value) : IdentifierPair :=
  ((readImdb answer).map fun found =>
    ⟨found, .int tmdb, .kind kind⟩).toOption.getD (known imdb (some tmdb) (some kind))

theorem has_byImdb {imdb : String} (blank : tmdb.getD 0 = 0) (kind : Option MediaKind) (answer : Value) :
    Has (some imdb) tmdb kind (byImdb imdb tmdb kind answer) := by
  unfold byImdb
  cases readTitle answer with
  | error f => exact .known (some imdb) tmdb kind
  | ok found =>
      refine .of_blank (.inl rfl) (.inr blank) ?_
      cases kind with
      | none => exact .inr rfl
      | some k => exact .inl rfl

theorem has_byTmdb (blank : imdb.getD "" = "") (tmdb : Int) (kind : MediaKind) (answer : Value) :
    Has imdb (some tmdb) (some kind) (byTmdb imdb tmdb kind answer) := by
  unfold byTmdb
  cases readImdb answer with
  | error f => exact .known imdb (some tmdb) (some kind)
  | ok found => exact .of_blank (.inr blank) (.inl rfl) (.inl rfl)

theorem resolve_byImdb (db : TitleDatabase) {imdb : String} (marked : imdb.startsWith "tt" = true)
    (blank : tmdb.getD 0 = 0) (kind : Option MediaKind) (c : Client) :
    (db.resolve (known (some imdb) tmdb kind)).Ends c
      ((db.heard c (db.finding imdb)).map (byImdb imdb tmdb kind)) (db.afterAsk c (db.finding imdb))
      (db.asking c (db.finding imdb)) := by
  have here := truthy_of_marked marked
  have half : (known (some imdb) tmdb kind).isComplete = false := by
    simp [IdentifierPair.isComplete, known, truthy_ofInt, blank]
  have given : (known (some imdb) tmdb kind).isEmpty = false := by
    simp [IdentifierPair.isEmpty, known, Value.ofString?, here]
  have reads : _ = (db.heard c (db.finding imdb)).map (byImdb imdb tmdb kind) :=
    caught_read (db.heard_failsOnly c _) readTitle_failsOnly
      (fun found => ⟨.str imdb, found.1, .ofKind? (kind.or found.2)⟩) (known (some imdb) tmdb kind)
  rw [← reads]
  obtain ⟨words, spelled⟩ := spell_known (some imdb) tmdb kind
    ((congrArg Text.isBrief blank).trans Text.isBrief_zero)
  refine resolve_ends half given spelled ?_
  unfold lookUp
  simp only [known, Value.ofString?, here, if_true, orElse_ofKind]
  exact (db.imdbToTmdb_ends marked c).map _

theorem resolve_unmarked (db : TitleDatabase) {imdb : String} (given : imdb ≠ "")
    (unmarked : imdb.startsWith "tt" = false) (blank : tmdb.getD 0 = 0) (kind : Option MediaKind)
    (c : Client) :
    (db.resolve (known (some imdb) tmdb kind)).Ends c (.ok ⟨.str imdb, .null, .ofKind? kind⟩) c [] := by
  have here : (Value.str imdb).truthy = true := decide_eq_true given
  have half : (known (some imdb) tmdb kind).isComplete = false := by
    simp [IdentifierPair.isComplete, known, truthy_ofInt, blank]
  have given : (known (some imdb) tmdb kind).isEmpty = false := by
    simp [IdentifierPair.isEmpty, known, Value.ofString?, here]
  have looked : (db.lookUp (known (some imdb) tmdb kind)).Ends c
      (.ok ⟨.str imdb, .null, .ofKind? (kind.or none)⟩) c [] := by
    unfold lookUp
    simp only [known, Value.ofString?, here, if_true, orElse_ofKind]
    exact (db.imdbToTmdb_quiet unmarked c).map _
  rw [Option.or_none] at looked
  obtain ⟨words, spelled⟩ := spell_known (some imdb) tmdb kind
    ((congrArg Text.isBrief blank).trans Text.isBrief_zero)
  exact resolve_ends half given spelled looked

theorem resolve_byTmdb (db : TitleDatabase) (blank : imdb.getD "" = "") {tmdb : Int} (nonzero : tmdb ≠ 0)
    (brief : Text.isBrief tmdb = true) (kind : MediaKind) (c : Client) :
    (db.resolve (known imdb (some tmdb) (some kind))).Ends c
      ((db.heard c (db.naming tmdb kind)).map (byTmdb imdb tmdb kind))
      (db.afterAsk c (db.naming tmdb kind)) (db.asking c (db.naming tmdb kind)) := by
  have there : (Value.ofString? imdb).truthy = false := by simp [truthy_ofString, blank]
  have half : (known imdb (some tmdb) (some kind)).isComplete = false := by
    simp [IdentifierPair.isComplete, known, there]
  have given : (known imdb (some tmdb) (some kind)).isEmpty = false := by
    simp [IdentifierPair.isEmpty, known, truthy_ofInt, nonzero]
  have reads : _ = (db.heard c (db.naming tmdb kind)).map (byTmdb imdb tmdb kind) :=
    caught_read (db.heard_failsOnly c _) readImdb_failsOnly (fun found => ⟨found, .int tmdb, .kind kind⟩)
      (known imdb (some tmdb) (some kind))
  rw [← reads]
  obtain ⟨words, spelled⟩ := spell_known imdb (some tmdb) (some kind) brief
  refine resolve_ends half given spelled ?_
  unfold lookUp
  simp only [known, there, if_false, Bool.false_eq_true]
  exact (db.tmdbToImdb_ends nonzero brief kind c).map _

theorem resolve_unkinded (db : TitleDatabase) (blank : imdb.getD "" = "") {tmdb : Int} (nonzero : tmdb ≠ 0)
    (brief : Text.isBrief tmdb = true) (c : Client) :
    (db.resolve (known imdb (some tmdb) none)).Ends c (.ok ⟨.null, .int tmdb, .unknown⟩) c [] := by
  have there : (Value.ofString? imdb).truthy = false := by simp [truthy_ofString, blank]
  have half : (known imdb (some tmdb) none).isComplete = false := by
    simp [IdentifierPair.isComplete, known, there]
  have given : (known imdb (some tmdb) none).isEmpty = false := by
    simp [IdentifierPair.isEmpty, known, truthy_ofInt, nonzero]
  have looked : (db.lookUp (known imdb (some tmdb) none)).Ends c
      (.ok ⟨.null, .int tmdb, .unknown⟩) c [] := by
    unfold lookUp
    simp only [known, there, if_false, Bool.false_eq_true]
    exact (db.tmdbToImdb_quiet (show (Value.int tmdb).isBrief = true from brief) c).map _
  obtain ⟨words, spelled⟩ := spell_known imdb (some tmdb) none brief
  exact resolve_ends half given spelled looked

/-- A number that cannot be written cannot be looked up, and neither can the failure be logged with it. -/
theorem resolve_long (db : TitleDatabase) (blank : imdb.getD "" = "") {tmdb : Int}
    (long : Text.isBrief tmdb = false) (kind : Option MediaKind) (c : Client) :
    (db.resolve (known imdb (some tmdb) kind)).run c = ⟨.error .longNumber, [], [], c⟩ := by
  have nonzero : tmdb ≠ 0 := by
    rintro rfl
    rw [Text.isBrief_zero] at long
    cases long
  have there : (Value.ofString? imdb).truthy = false := by simp [truthy_ofString, blank]
  have half : (known imdb (some tmdb) kind).isComplete = false := by
    simp [IdentifierPair.isComplete, known, there]
  have given : (known imdb (some tmdb) kind).isEmpty = false := by
    simp [IdentifierPair.isEmpty, known, truthy_ofInt, nonzero]
  have number : (Value.int tmdb).spell = .error .longNumber := Value.spell_of_long (v := .int tmdb) long
  have words : (known imdb (some tmdb) kind).spell = .error .longNumber := by
    refine if_neg fun all => ?_
    have brief : Text.isBrief tmdb = true := (Bool.and_eq_true_iff.mp (Bool.and_eq_true_iff.mp all).1).2
    rw [long] at brief
    cases brief
  have counts : (Value.int tmdb).truthy = true := decide_eq_true nonzero
  have lookUp : db.lookUp (known imdb (some tmdb) kind) = .fail .longNumber := by
    simp only [TitleDatabase.lookUp, known, there, Bool.false_eq_true, if_false]
    cases kind with
    | none =>
        show (db.tmdbToImdb (.int tmdb) .unknown >>= _) = _
        unfold tmdbToImdb
        rw [number]
        cases (Value.int tmdb).truthy <;> rfl
    | some k =>
        show (db.tmdbToImdb (.int tmdb) (.kind k) >>= _) = _
        unfold tmdbToImdb
        rw [counts]
        show ((db.externalIds (.int tmdb) (.str k.mediaType) >>= _) >>= _) = _
        unfold externalIds
        rw [number]
        rfl
  unfold resolve
  rw [half, given, lookUp]
  show Exchange.run c (Exchange.lift (IdentifierPair.spell _) >>= _) = _
  rw [words]
  rfl

theorem run_resolve_complete (db : TitleDatabase) {pair : IdentifierPair}
    (complete : pair.isComplete = true) (c : Client) : (db.resolve pair).run c = ⟨.ok pair, [], [], c⟩ := by
  unfold resolve
  rw [if_pos complete]
  rfl

theorem resolve_complete (db : TitleDatabase) {pair : IdentifierPair} (complete : pair.isComplete = true)
    (c : Client) : (db.resolve pair).Ends c (.ok pair) c [] := by
  unfold resolve
  rw [if_pos complete]
  exact .done pair c

theorem resolve_empty (db : TitleDatabase) {pair : IdentifierPair} (empty : pair.isEmpty = true)
    (c : Client) : (db.resolve pair).Ends c (.ok ⟨.null, .null, pair.kind⟩) c [] := by
  have half : pair.isComplete = false := by
    rw [IdentifierPair.isEmpty, Bool.and_eq_true, Bool.not_eq_true'] at empty
    rw [IdentifierPair.isComplete, empty.1, Bool.false_and]
  unfold resolve
  rw [half, empty]
  exact .note (.done _ c)

/-- A pair that has both, or neither, or nothing to look the other up with, has no request. -/
theorem resolve_quiet (db : TitleDatabase) (brief : imdb.getD "" = "" → Text.isBrief (tmdb.getD 0) = true)
    (nothing : ∀ path fields, ¬ LooksUp imdb tmdb kind path fields) (c : Client) :
    ∃ found, Has imdb tmdb kind found ∧ (db.resolve (known imdb tmdb kind)).Ends c (.ok found) c [] := by
  by_cases blank : imdb.getD "" = "" <;> by_cases zero : tmdb.getD 0 = 0
  · have empty : (known imdb tmdb kind).isEmpty = true := by
      simp [IdentifierPair.isEmpty, known, truthy_ofString, truthy_ofInt, blank, zero]
    exact ⟨_, .of_blank (.inr blank) (.inr zero) (.inl rfl), db.resolve_empty empty c⟩
  · obtain ⟨t, rfl⟩ : ∃ t, tmdb = some t := by
      cases tmdb with
      | none => exact absurd rfl zero
      | some t => exact ⟨t, rfl⟩
    cases kind with
    | some k => exact absurd (.byTmdb blank zero) (nothing _ _)
    | none =>
        exact ⟨_, .of_blank (.inr blank) (.inl rfl) (.inl rfl),
          db.resolve_unkinded blank zero (brief blank) c⟩
  · obtain ⟨i, rfl⟩ : ∃ i, imdb = some i := by
      cases imdb with
      | none => exact absurd rfl blank
      | some i => exact ⟨i, rfl⟩
    cases marked : i.startsWith "tt" with
    | true => exact absurd (.byImdb marked zero) (nothing _ _)
    | false =>
        exact ⟨_, .of_blank (.inl rfl) (.inr zero) (.inl rfl), db.resolve_unmarked blank marked zero kind c⟩
  · have complete : (known imdb tmdb kind).isComplete = true := by
      simp [IdentifierPair.isComplete, known, truthy_ofString, truthy_ofInt, blank, zero]
    exact ⟨_, .known imdb tmdb kind, db.resolve_complete complete c⟩

/-- What a pair is looked up with is one request at most, and whatever comes of it the pair keeps what it
had. -/
theorem resolve_known (db : TitleDatabase) (imdb : Option String) (tmdb : Option Int)
    (kind : Option MediaKind) (brief : imdb.getD "" = "" → Text.isBrief (tmdb.getD 0) = true) {c : Client}
    (met : c.reply ≠ .failed .cancelled) :
    ∃ found, Has imdb tmdb kind found ∧
      ((∃ path fields, LooksUp imdb tmdb kind path fields ∧
          (db.resolve (known imdb tmdb kind)).Ends c (.ok found)
            (db.afterAsk c (db.request path fields)) (db.asking c (db.request path fields))) ∨
        ((∀ path fields, ¬ LooksUp imdb tmdb kind path fields) ∧
          (db.resolve (known imdb tmdb kind)).Ends c (.ok found) c [])) := by
  by_cases looks : ∃ path fields, LooksUp imdb tmdb kind path fields
  · obtain ⟨path, fields, looks⟩ := looks
    cases looks with
    | @byImdb imdb _ _ marked blank =>
        have ends := db.resolve_byImdb marked blank kind c
        obtain ⟨answer, heard⟩ := db.heard_of_met met (db.finding imdb)
        rw [heard] at ends
        exact ⟨_, has_byImdb blank kind answer, .inl ⟨_, _, .byImdb marked blank, ends⟩⟩
    | @byTmdb _ tmdb kind blank nonzero =>
        have ends := db.resolve_byTmdb blank nonzero (brief blank) kind c
        obtain ⟨answer, heard⟩ := db.heard_of_met met (db.naming tmdb kind)
        rw [heard] at ends
        exact ⟨_, has_byTmdb blank tmdb kind answer, .inl ⟨_, _, .byTmdb blank nonzero, ends⟩⟩
  · have nothing (path : String) (fields : Fields) : ¬ LooksUp imdb tmdb kind path fields :=
      fun one => looks ⟨path, fields, one⟩
    obtain ⟨found, has, ends⟩ := db.resolve_quiet brief nothing c
    exact ⟨found, has, .inr ⟨nothing, ends⟩⟩

theorem LooksUp.prepare {path : String} {fields : Fields} (looks : LooksUp imdb tmdb kind path fields)
    (plain : ∀ i, imdb = some i → ∀ ch ∈ i.toList, Wire.IsSegmentChar ch) (db : TitleDatabase) :
    (db.request path fields).prepare =
      if db.Fits path fields then .ok (db.sentTo path fields) else .error (tooLong path) := by
  cases looks with
  | byImdb marked blank =>
      exact db.prepare_plain _ (Wire.forall_of_all (by decide)) fun ch member => plain _ rfl ch member
  | byTmdb blank nonzero => exact db.prepare_plain _ (MediaKind.shelf_plain _) (Wire.isSegmentChar_of_int _)

/-- What is seen of a lookup is its request, where there is a key, the client is open and the address can
be sent. -/
theorem events_asking (db : TitleDatabase) (c : Client) (r : Request) :
    (db.asking c r).map (fun e => Event.sent e.1) =
      if c.isClosed = false ∧ db.apiKey.truthy = true then
        (r.prepare.toOption.map Event.sent).toList else [] := by
  unfold asking Client.asking Client.exchanged
  cases db.apiKey.truthy <;> cases c.isClosed <;> cases r.prepare <;> rfl

theorem events_resolve (db : TitleDatabase) (pair : IdentifierPair) {c after : Client}
    {r : Except Fault IdentifierPair} {said : List (Sent × Outcome)}
    (ends : (db.resolve pair).Ends c r after said) :
    ((db.resolve pair).run c).events = said.map fun e => .sent e.1 := by
  rw [(db.resolve_composed pair).wakeful.events, ends.dialogue]

/-- The completion of a pair never fails, never forgets and asks once at most, where a number that is all
there is to look up can be written. It asks just where one half is known and can be looked up, with a key on
an open client, if the address can be sent; and a pair that is complete stays as it is and asks nothing. -/
theorem resolve_returns (db : TitleDatabase) (imdb : Option String) (tmdb : Option Int)
    (kind : Option MediaKind) (brief : imdb.getD "" = "" → Text.isBrief (tmdb.getD 0) = true) {c : Client}
    (met : c.reply ≠ .failed .cancelled) :
    ∃ found, ((db.resolve (known imdb tmdb kind)).run c).result = .ok found ∧
      Has imdb tmdb kind found ∧
      ((db.resolve (known imdb tmdb kind)).run c).events.length ≤ 1 ∧
      (∀ event ∈ ((db.resolve (known imdb tmdb kind)).run c).events,
        c.isClosed = false ∧ db.apiKey.truthy = true ∧
        ∃ path fields sent, LooksUp imdb tmdb kind path fields ∧
          (db.request path fields).prepare = .ok sent ∧ event = .sent sent) ∧
      (∀ path fields sent, c.isClosed = false → db.apiKey.truthy = true →
        LooksUp imdb tmdb kind path fields → (db.request path fields).prepare = .ok sent →
        ((db.resolve (known imdb tmdb kind)).run c).events = [.sent sent] ∧ sent.method = .get ∧
        ((∀ i, imdb = some i → ∀ ch ∈ i.toList, Wire.IsSegmentChar ch) →
          sent = db.sentTo path fields)) ∧
      (found.isComplete = true → ∀ d, (db.resolve found).run d = ⟨.ok found, [], [], d⟩) := by
  obtain ⟨found, has, ⟨path, fields, looks, ends⟩ | ⟨nothing, ends⟩⟩ :=
    db.resolve_known imdb tmdb kind brief met
  · have events := db.events_resolve _ ends
    rw [events_asking] at events
    refine ⟨found, ends.result, has, ?_, ?_, ?_, fun complete => db.run_resolve_complete complete⟩
    · rw [events]
      split
      · cases (db.request path fields).prepare <;> simp
      · exact Nat.zero_le 1
    · intro event member
      rw [events] at member
      split at member
      · rename_i can
        cases prepared : (db.request path fields).prepare with
        | error f =>
            rw [prepared] at member
            cases member
        | ok sent =>
            rw [prepared] at member
            exact ⟨can.1, can.2, path, fields, sent, looks, prepared, List.mem_singleton.mp member⟩
      · cases member
    · intro path' fields' sent isOpen key looks' prepared
      obtain ⟨rfl, rfl⟩ := looks.same looks'
      refine ⟨?_, (Wire.parts_of_prepare prepared).method, ?_⟩
      · rw [events, if_pos ⟨isOpen, key⟩, prepared]
        rfl
      · intro plain
        rw [looks.prepare plain] at prepared
        split at prepared
        · exact (Except.ok.inj prepared).symm
        · cases prepared
  · have events := db.events_resolve _ ends
    refine ⟨found, ends.result, has, ?_, ?_, ?_, fun complete => db.run_resolve_complete complete⟩
    · rw [events]
      exact Nat.zero_le 1
    · intro event member
      rw [events] at member
      cases member
    · intro path fields sent _ _ looks
      exact absurd looks (nothing path fields)

def keyed (key : String) : TitleDatabase := ⟨.str key, .null⟩

theorem resolve_returns_of_timeout :
    ∃ found, (((keyed "key").resolve (known (some "tt0111161") none (some .series))).run
        ⟨false, [], .failed (.transport "ReadTimeout" "")⟩).result = .ok found ∧
      found.imdb = .str "tt0111161" ∧ found.kind = .kind .series ∧
      ∃ sent, (((keyed "key").resolve (known (some "tt0111161") none (some .series))).run
          ⟨false, [], .failed (.transport "ReadTimeout" "")⟩).events = [.sent sent] ∧
        sent.url = "https://api.themoviedb.org/3/find/tt0111161?api_key=key&external_source=imdb_id" := by
  have met : Client.reply ⟨false, [], .failed (.transport "ReadTimeout" "")⟩ ≠ .failed .cancelled := nofun
  have looks : LooksUp (some "tt0111161") none (some .series) (pathTo "find" "tt0111161")
      [("external_source", .str "imdb_id")] := .byImdb (by simp) rfl
  have letters : ∀ ch ∈ "tt0111161".toList, Wire.IsSegmentChar ch := Wire.forall_of_all (by decide)
  have plain : ∀ i, some "tt0111161" = some i → ∀ ch ∈ i.toList, Wire.IsSegmentChar ch :=
    fun i same => Option.some.inj same ▸ letters
  have fits : (keyed "key").Fits (pathTo "find" "tt0111161") [("external_source", .str "imdb_id")] := by
    decide
  have prepared := looks.prepare plain (keyed "key")
  rw [if_pos fits] at prepared
  obtain ⟨found, result, has, -, -, asks, -⟩ :=
    resolve_returns (keyed "key") (some "tt0111161") none (some .series) (fun _ => Text.isBrief_zero) met
  refine ⟨found, result, has.imdb _ rfl (by decide), has.kind _ rfl, _,
    (asks _ _ _ rfl rfl looks prepared).1, ?_⟩
  decide

/-- An identifier with dot segments is looked up at another endpoint, and a number that cannot be written
ends the completion in a fault. -/
theorem resolve_not_returns :
    "tt/../../configuration".startsWith "tt" = true ∧
      (∃ sent, (((keyed "key").resolve (known (some "tt/../../configuration") none none)).run
          ⟨false, [], .failed (.transport "ReadTimeout" "")⟩).events = [.sent sent] ∧
        sent.url = "https://api.themoviedb.org/3/configuration?api_key=key&external_source=imdb_id") ∧
      (((keyed "key").resolve (known none (some (10 ^ Text.mostDigits)) (some .movie))).run
          ⟨false, [], .failed (.transport "ReadTimeout" "")⟩).result = .error .longNumber := by
  have marked : "tt/../../configuration".startsWith "tt" = true := by simp
  have blank : (none : Option Int).getD 0 = 0 := rfl
  have ends := (keyed "key").resolve_byImdb marked blank none
    ⟨false, [], .failed (.transport "ReadTimeout" "")⟩
  have events := (keyed "key").events_resolve _ ends
  refine ⟨marked, ⟨_, events.trans rfl, ?_⟩, ?_⟩
  · decide
  · rw [(keyed "key").resolve_long rfl Text.not_isBrief_pow]

end TitleDatabase
end DebridCache
