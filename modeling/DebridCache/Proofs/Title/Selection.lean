import DebridCache.Proofs.Title.Namespace

/-!
What a lookup selects, whatever it brings. The first list with something in it decides: if a title is read
from its first entry that is the match, and if none can be read there is no match, also where a later list
has one. A title's document gives an identifier if it has one that counts as true.
-/

namespace DebridCache

open Wire (Outcome Request Sent)

def Wire.Outcome.BringsName (o : Outcome) (name : Value) : Prop :=
  ∃ fields ids, o.Brings (.obj fields) ∧ fields.lookup "external_ids" = some (.obj ids) ∧
    ids.lookup "imdb_id" = some name ∧ name.truthy = true

namespace TitleDatabase

open IdentifierPair (known)

variable {db : TitleDatabase} {c : Client} {imdb : String} {kind : Option MediaKind} {answer : Value}
  {l : Listing}

theorem byImdb_of_untaken (imdb : String) (kind : Option MediaKind)
    (untaken : ∀ l number, ¬ Taken answer l number) :
    byImdb imdb none kind answer = known (some imdb) none kind := by
  unfold byImdb
  cases read : readTitle answer with
  | error f => rfl
  | ok title =>
      obtain ⟨number, found⟩ := title
      cases found with
      | some k =>
          obtain ⟨l, taken, -⟩ := readTitle_eq_ok.mp read
          exact absurd taken (untaken l number)
      | none =>
          cases readTitle_unkinded read
          show IdentifierPair.mk (.str imdb) .null (.ofKind? (kind.or none)) = _
          rw [Option.or_none]
          rfl

theorem lookup_of_truthy {v : Value} {key : String} (some : (v.memberOrNull key).truthy = true) :
    ∃ fields, v = .obj fields ∧ fields.lookup key = .some (v.memberOrNull key) := by
  cases v with
  | obj fields =>
      refine ⟨fields, rfl, ?_⟩
      cases held : fields.lookup key with
      | none =>
          rw [Value.memberOrNull, held] at some
          cases some
      | some inner => rw [Value.memberOrNull, held, Option.getD_some]
  | _ => cases some

theorem inner_of_readImdb {name : Value} (read : readImdb answer = .ok name) :
    name = .null ∨ name.truthy = true ∧
      (answer.memberOrNull "external_ids").memberOrNull "imdb_id" = name := by
  have kept {v : Value} : v.orElse .null = .null ∨ v.truthy = true ∧ v.orElse .null = v := by
    unfold Value.orElse
    split
    · exact .inr ⟨‹_›, rfl⟩
    · exact .inl rfl
  obtain ⟨ids, external, read⟩ := ok_of_bind_ok read
  split at read
  · rename_i some
    obtain ⟨found, member, same⟩ := ok_of_bind_ok read
    cases same
    refine (kept (v := found)).imp_right ?_
    rintro ⟨truthy, same⟩
    rw [same]
    refine ⟨truthy, ?_⟩
    unfold readExternal at external
    split at external
    · obtain ⟨held, inside, whole⟩ := ok_of_bind_ok external
      cases whole
      rcases kept (v := held) with null | ⟨-, own⟩
      · rw [null] at some
        cases some
      · rw [own] at member
        rw [Value.memberOrNull_of_member inside, Value.memberOrNull_of_member member]
    · cases external
      cases some
  · cases read
    exact .inl rfl

theorem byTmdb_of_unnamed {o : Outcome} (brings : answer ≠ .null → o.Brings answer)
    (unnamed : ∀ name, ¬ o.BringsName name) (t : Int) (kind : MediaKind) :
    byTmdb none t kind answer = known none (some t) (some kind) := by
  unfold byTmdb
  cases read : readImdb answer with
  | error f => rfl
  | ok name =>
      rcases inner_of_readImdb read with rfl | ⟨truthy, rfl⟩
      · rfl
      · obtain ⟨ids, external, named⟩ := lookup_of_truthy truthy
        have held : (answer.memberOrNull "external_ids").truthy = true := truthy_of_inner truthy
        obtain ⟨fields, rfl, inside⟩ := lookup_of_truthy held
        rw [external] at inside
        exact absurd ⟨fields, ids, brings nofun, inside, named, truthy⟩ (unnamed _)

/-- What is selected for an IMDb identifier with one outcome of its request. -/
structure SelectsTitle (imdb : String) (kind : Option MediaKind) (o : Outcome)
    (result : Except Fault IdentifierPair) : Prop where
  withdrawn : o = .failed .cancelled → result = .error .cancelled
  unread : o ≠ .failed .cancelled → (∀ answer, ¬ o.Brings answer) →
    result = .ok (known (some imdb) none kind)
  shapeless : ∀ answer, o.Brings answer → (∀ members, answer ≠ .obj members) →
    result = .ok (known (some imdb) none kind)
  unlisted : ∀ answer, o.Brings answer → (∀ l : Listing, (l.content answer).truthy = false) →
    result = .ok (known (some imdb) none kind)
  first : ∀ answer l entry rest, o.Brings answer → First answer l →
    l.content answer = .arr (.obj entry :: rest) →
    result = .ok ⟨.str imdb, (entry.lookup l.numberedBy).getD .null, .ofKind? (kind.or (some l.kind))⟩
  misshapen : ∀ answer l, o.Brings answer → First answer l →
    (∀ entry rest, l.content answer ≠ .arr (.obj entry :: rest)) →
    result = .ok (known (some imdb) none kind)

/-- What is selected for the number of a title with one outcome of its request. -/
structure SelectsName (t : Int) (kind : MediaKind) (o : Outcome)
    (result : Except Fault IdentifierPair) : Prop where
  withdrawn : o = .failed .cancelled → result = .error .cancelled
  named : ∀ name, o.BringsName name → result = .ok ⟨name, .int t, .kind kind⟩
  unnamed : o ≠ .failed .cancelled → (∀ name, ¬ o.BringsName name) →
    result = .ok (known none (some t) (some kind))

section heard

variable {r : Request} {sent : Sent}

theorem heard_of_withdrawn (key : db.apiKey.truthy = true) (withdrawn : c.ask r = .failed .cancelled) :
    db.heard c r = .error .cancelled := by
  rw [heard, if_pos key, withdrawn]
  rfl

theorem heard_of_prepare (prepared : r.prepare = .ok sent) (met : c.reply ≠ .failed .cancelled) :
    ∃ answer, db.heard c r = .ok answer ∧ (answer ≠ .null → c.reply.Brings answer) := by
  obtain ⟨answer, heard⟩ := db.heard_of_met met r
  refine ⟨answer, heard, ?_⟩
  intro some
  rw [← Client.ask_of_prepare prepared c]
  exact (brings_of_heard some heard).2

end heard

theorem selectsTitle_of_heard (key : db.apiKey.truthy = true) {sent : Sent} (kind : Option MediaKind)
    (prepared : (db.finding imdb).prepare = .ok sent) :
    SelectsTitle imdb kind c.reply ((db.heard c (db.finding imdb)).map (byImdb imdb none kind)) := by
  have asked := Client.ask_of_prepare prepared c
  have heard (answer : Value) (brings : c.reply.Brings answer) :
      db.heard c (db.finding imdb) = .ok answer := heard_of_brings key (asked ▸ brings)
  have untaken (answer : Value) (brings : c.reply.Brings answer)
      (none : ∀ l number, ¬ Taken answer l number) :
      (db.heard c (db.finding imdb)).map (byImdb imdb .none kind) = .ok (known (some imdb) .none kind) := by
    rw [heard answer brings, Except.map, byImdb_of_untaken imdb kind none]
  constructor
  · intro withdrawn
    rw [heard_of_withdrawn key (asked.trans withdrawn)]
    rfl
  · intro met unread
    obtain ⟨answer, went, brings⟩ := heard_of_prepare prepared met
    have untaken (l : Listing) (number : Value) : ¬ Taken answer l number := by
      intro taken
      obtain ⟨members, rfl⟩ := taken.isObject
      exact unread _ (brings nofun)
    rw [went, Except.map, byImdb_of_untaken imdb kind untaken]
  · intro answer brings shapeless
    refine untaken answer brings fun l number taken => ?_
    obtain ⟨members, same⟩ := taken.isObject
    exact shapeless members same
  · intro answer brings unlisted
    refine untaken answer brings fun l number taken => ?_
    exact absurd taken.truthy (by rw [unlisted l]; nofun)
  · intro answer l entry rest brings first found
    have taken : Taken answer l ((entry.lookup l.numberedBy).getD .null) :=
      ⟨first.passed, entry, rest, found, rfl⟩
    rw [heard answer brings, Except.map, byImdb_of_taken imdb none kind taken]
  · intro answer l brings first misshapen
    refine untaken answer brings fun l' number taken => ?_
    obtain ⟨entry, rest, found, -⟩ := taken.first
    rw [taken.isFirst.same first] at found
    exact misshapen entry rest found

theorem selectsName_of_heard (key : db.apiKey.truthy = true) {t : Int} {sent : Sent} (kind : MediaKind)
    (prepared : (db.naming t kind).prepare = .ok sent) :
    SelectsName t kind c.reply ((db.heard c (db.naming t kind)).map (byTmdb none t kind)) := by
  have asked := Client.ask_of_prepare prepared c
  constructor
  · intro withdrawn
    rw [heard_of_withdrawn key (asked.trans withdrawn)]
    rfl
  · rintro name ⟨fields, ids, brings, external, named, truthy⟩
    have inner : ((Value.obj fields).memberOrNull "external_ids").memberOrNull "imdb_id" = name := by
      rw [Value.memberOrNull, external, Option.getD_some, Value.memberOrNull, named, Option.getD_some]
    rw [heard_of_brings key (asked ▸ brings), Except.map, byTmdb, readImdb_of_named truthy inner]
    rfl
  · intro met unnamed
    obtain ⟨answer, went, brings⟩ := heard_of_prepare prepared met
    rw [went, Except.map, byTmdb_of_unnamed brings unnamed]

/-- With a key, on an open client and with a request that can be sent, a lookup sends that request alone,
and its outcome decides what is selected. -/
theorem resolve_selects (key : db.apiKey.truthy = true) (isOpen : c.isClosed = false) :
    (∀ imdb kind sent, imdb.startsWith "tt" = true → (db.finding imdb).prepare = .ok sent →
      ((db.resolve (known (some imdb) none kind)).run c).events = [.sent sent] ∧
      SelectsTitle imdb kind c.reply ((db.resolve (known (some imdb) none kind)).run c).result) ∧
    (∀ t kind sent, t ≠ 0 → db.namingSent t kind = .ok sent →
      ((db.resolve (known none (some t) (some kind))).run c).events = [.sent sent] ∧
      SelectsName t kind c.reply ((db.resolve (known none (some t) (some kind))).run c).result) := by
  constructor
  · intro imdb kind sent marked prepared
    have blank : (none : Option Int).getD 0 = 0 := rfl
    have ends := db.resolve_byImdb marked blank kind c
    rw [db.events_resolve _ ends, events_asking, if_pos ⟨isOpen, key⟩, prepared, ends.result]
    exact ⟨rfl, selectsTitle_of_heard key kind prepared⟩
  · intro t kind sent nonzero made
    obtain ⟨brief, prepared⟩ := namingSent_eq_ok.mp made
    have ends := db.ends_byTmdb nonzero brief kind c
    rw [db.events_resolve _ ends, events_asking, if_pos ⟨isOpen, key⟩, prepared, ends.result]
    exact ⟨rfl, selectsName_of_heard key kind prepared⟩

/-- The list that decides has a number where a series should be; the next one has an episode. -/
def misshapenSeries : Wire.Response :=
  ⟨200, [123, 34, 116, 118, 95, 114, 101, 115, 117, 108, 116, 115, 34, 58, 91, 55, 93, 44, 34, 116, 118,
    95, 101, 112, 105, 115, 111, 100, 101, 95, 114, 101, 115, 117, 108, 116, 115, 34, 58, 91,
    123, 34, 115, 104, 111, 119, 95, 105, 100, 34, 58, 55, 125, 93, 125], 1000⟩

theorem prepare_finding : ((keyed "key").finding "tt1").prepare =
    .ok ((keyed "key").sentTo (pathTo "find" "tt1") [("external_source", .str "imdb_id")]) := by
  have find : ∀ ch ∈ "find".toList, Wire.IsSegmentChar ch := Wire.forall_of_all (by decide)
  have name : ∀ ch ∈ "tt1".toList, Wire.IsSegmentChar ch := Wire.forall_of_all (by decide)
  have fits : (keyed "key").Fits (pathTo "find" "tt1") [("external_source", .str "imdb_id")] := by decide
  rw [finding, (keyed "key").prepare_plain _ find name, if_pos fits]

theorem resolve_selects_of_misshapen :
    ∃ sent, ((keyed "key").finding "tt1").prepare = .ok sent ∧
      (((keyed "key").resolve (known (some "tt1") none none)).run (answering misshapenSeries)).events =
        [.sent sent] ∧
      (((keyed "key").resolve (known (some "tt1") none none)).run (answering misshapenSeries)).result =
        .ok (known (some "tt1") none none) ∧
      (((keyed "key").resolve (known (some "tt1") none (some .series))).run
          (answering filmFound)).result = .ok (known (some "tt1") (some 7) (some .series)) ∧
      (((keyed "key").resolve (known none (some 7) (some .movie))).run (answering titleNamed)).result =
        .ok (known (some "tt1") (some 7) (some .movie)) := by
  have marked : "tt1".startsWith "tt" = true := by simp
  have long : (keyed "key").Fits (pathTo MediaKind.movie.shelf (toString (7 : Int)))
      [("append_to_response", .str "external_ids")] := by decide
  have names := (keyed "key").prepare_plain [("append_to_response", .str "external_ids")]
    (MediaKind.shelf_plain .movie) (Wire.isSegmentChar_of_int 7)
  rw [if_pos long] at names
  have seven : Text.isBrief 7 = true := Text.isBrief_of_lt 1 (by decide) (by decide)
  obtain ⟨events, misshapen⟩ :=
    (resolve_selects (c := answering misshapenSeries) rfl rfl).1 "tt1" none _ marked prepare_finding
  obtain ⟨-, film⟩ :=
    (resolve_selects (c := answering filmFound) rfl rfl).1 "tt1" (some .series) _ marked prepare_finding
  obtain ⟨-, title⟩ :=
    (resolve_selects (c := answering titleNamed) rfl rfl).2 7 .movie _ (by decide)
      (namingSent_eq_ok.mpr ⟨seven, names⟩)
  refine ⟨_, prepare_finding, events, ?_, ?_, ?_⟩
  · refine misshapen.misshapen (.obj [("tv_results", .arr [.int 7]), ("tv_episode_results",
      .arr [.obj [("show_id", .int 7)]])]) .series ⟨_, rfl, rfl, rfl⟩ ⟨rfl, ?_⟩ nofun
    intro p before
    cases before with
    | head => rfl
    | tail _ none => cases none
  · exact film.first (listed .movies 7) .movies _ _ ⟨_, rfl, rfl, rfl⟩ ⟨rfl, nofun⟩ rfl
  · exact title.named _ ⟨_, _, ⟨_, rfl, rfl, rfl⟩, rfl, rfl, rfl⟩

/-- A lookup that is withdrawn raises the withdrawal, and no pair is returned. -/
theorem resolve_selects_not_withdrawn :
    "tt1".startsWith "tt" = true ∧ (keyed "key").apiKey.truthy = true ∧
      (∃ sent, ((keyed "key").finding "tt1").prepare = .ok sent) ∧
      (∀ answer, ¬ (Outcome.failed .cancelled).Brings answer) ∧
      (((keyed "key").resolve (known (some "tt1") none none)).run
        ⟨false, [], .failed .cancelled⟩).result = .error .cancelled := by
  have marked : "tt1".startsWith "tt" = true := by simp
  have withdrawn := Client.ask_of_prepare prepare_finding ⟨false, [], .failed .cancelled⟩
  refine ⟨marked, rfl, ⟨_, prepare_finding⟩, ?_, ?_⟩
  · rintro answer ⟨r, answered, -⟩
    cases answered
  · rw [result_byImdb _ marked, heard_of_withdrawn rfl withdrawn]
    rfl

end TitleDatabase
end DebridCache
