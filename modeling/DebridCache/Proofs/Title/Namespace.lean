import DebridCache.Proofs.Json.Limits
import DebridCache.Proofs.Title.Resolve
import DebridCache.Proofs.Wire.Form

/-!
Films and series are numbered apart, so a number alone says little. The one that is found under an IMDb
identifier comes with a kind, and that kind leads back to the collection that the number was taken from:
the pair that comes of one identifier is the pair that comes of the other.
-/

namespace DebridCache.TitleDatabase

open Wire (Sent Fields Outcome)
open IdentifierPair (known)

inductive Listing where
  | movies
  | series
  | episodes
  deriving DecidableEq, Repr

namespace Listing

def member : Listing → String
  | .movies => "movie_results"
  | .series => "tv_results"
  | .episodes => "tv_episode_results"

/-- The member of an entry with the number of its title. An episode is no title of its own. -/
def numberedBy : Listing → String
  | .movies => "id"
  | .series => "id"
  | .episodes => "show_id"

def kind : Listing → MediaKind
  | .movies => .movie
  | .series => .series
  | .episodes => .series

/-- The collection in which the titles of a list are numbered. -/
def shelf : Listing → String
  | .movies => "movie"
  | .series => "tv"
  | .episodes => "tv"

/-- The lists that are preferred to it. -/
def preferred : Listing → List Listing
  | .movies => []
  | .series => [.movies]
  | .episodes => [.movies, .series]

def ofKind : MediaKind → Listing
  | .movie => .movies
  | .series => .series

def content (l : Listing) (answer : Value) : Value := answer.memberOrNull l.member

def asMatch (l : Listing) : MatchList where
  member := l.member
  idMember := l.numberedBy
  kind := l.kind
  label := if l = .episodes then "series, from episode" else l.kind.key

def all : List Listing := [.movies, .series, .episodes]

theorem matchLists_eq : matchLists = all.map asMatch := rfl

/-- The first of all lists with something in it is the one whose preferred lists have nothing. -/
theorem find_all (full : Listing → Bool) (l : Listing) :
    all.find? full = some l ↔ full l = true ∧ ∀ p ∈ l.preferred, full p = false := by
  unfold all
  cases movies : full .movies <;> cases series : full .series <;> cases episodes : full .episodes <;>
    cases l <;> simp [preferred, movies, series, episodes]

theorem shelf_kind (l : Listing) : l.kind.shelf = l.shelf := by
  cases l <;> rfl

theorem kind_ofKind (kind : MediaKind) : (ofKind kind).kind = kind := by
  cases kind <;> rfl

theorem preferred_of_ne {l l' : Listing} (apart : l ≠ l') : l ∈ l'.preferred ∨ l' ∈ l.preferred := by
  revert apart
  cases l <;> cases l' <;> decide

end Listing

/-- What a request brings can be written, all numbers in it included. -/
theorem isBrief_of_brings {o : Outcome} {answer : Value} (brings : o.Brings answer) :
    answer.isBrief = true := by
  obtain ⟨r, -, -, document⟩ := brings
  unfold Wire.Response.document at document
  split at document
  · rename_i read
    cases document
    exact Json.read_brief read
  · cases document
  · cases document

theorem truthy_of_member {v : Value} {key : String} (some : v.memberOrNull key ≠ .null) :
    v.truthy = true := by
  cases v with
  | obj members =>
      cases members with
      | nil => exact absurd rfl some
      | cons m ms => rfl
  | _ => exact absurd rfl some

theorem truthy_of_inner {v : Value} {key : String} (inner : (v.memberOrNull key).truthy = true) :
    v.truthy = true := by
  apply truthy_of_member
  intro null
  rw [null] at inner
  cases inner

theorem member_of_truthy {v : Value} {key : String} (some : (v.memberOrNull key).truthy = true) :
    v.member key = .ok (v.memberOrNull key) := by
  cases v with
  | obj members => rfl
  | _ => cases some

/-- A number is taken from a list if it is in the list's first entry and the lists preferred to it are
empty. -/
structure Taken (answer : Value) (l : Listing) (number : Value) : Prop where
  passed : ∀ p ∈ l.preferred, (p.content answer).truthy = false
  first : ∃ entry rest, l.content answer = .arr (.obj entry :: rest) ∧
    (entry.lookup l.numberedBy).getD .null = number

/-- A list with something in it, to which all that are preferred to it leave the choice. -/
structure First (answer : Value) (l : Listing) : Prop where
  filled : (l.content answer).truthy = true
  passed : ∀ p ∈ l.preferred, (p.content answer).truthy = false

theorem First.same {answer : Value} {l l' : Listing} (first : First answer l) (other : First answer l') :
    l = l' := by
  apply Decidable.by_contra
  intro apart
  rcases Listing.preferred_of_ne apart with before | before
  · exact absurd first.filled (by simp [other.passed l before])
  · exact absurd other.filled (by simp [first.passed l' before])

namespace Taken

variable {answer number : Value} {l : Listing}

theorem truthy (taken : Taken answer l number) : (l.content answer).truthy = true := by
  obtain ⟨entry, rest, found, -⟩ := taken.first
  rw [found]
  rfl

theorem not_null (taken : Taken answer l number) : answer.memberOrNull l.member ≠ .null := by
  obtain ⟨entry, rest, found, -⟩ := taken.first
  intro null
  rw [Listing.content, null] at found
  cases found

theorem isFirst (taken : Taken answer l number) : First answer l := ⟨taken.truthy, taken.passed⟩

theorem isBrief (taken : Taken answer l number) (brief : answer.isBrief = true) : number.isBrief = true := by
  obtain ⟨entry, rest, found, held⟩ := taken.first
  have content : (l.content answer).isBrief = true := Value.isBrief_memberOrNull brief _
  rw [found, Value.isBrief_arr] at content
  rw [← held]
  exact Value.isBrief_memberOrNull (content (.obj entry) List.mem_cons_self) l.numberedBy

theorem same_list (taken : Taken answer l number) {l' : Listing} {number' : Value}
    (other : Taken answer l' number') : l = l' := taken.isFirst.same other.isFirst

theorem isObject (taken : Taken answer l number) : ∃ members, answer = .obj members := by
  obtain ⟨entry, rest, found, -⟩ := taken.first
  cases answer with
  | obj members => exact ⟨members, rfl⟩
  | _ => cases found

end Taken

theorem firstMatches_map (answer : List (String × Value)) (ls : List Listing) :
    firstMatches (.obj answer) (ls.map Listing.asMatch) =
      .ok ((ls.find? fun l => (l.content (.obj answer)).truthy).map fun l =>
        (l.asMatch, l.content (.obj answer))) := by
  induction ls with
  | nil => rfl
  | cons l ls ih =>
      change (if (l.content (.obj answer)).truthy then Except.ok (some (l.asMatch, l.content (.obj answer)))
        else firstMatches (.obj answer) (ls.map Listing.asMatch)) = _
      rw [ih, List.find?_cons]
      cases (l.content (.obj answer)).truthy <;> rfl

theorem matchedId_eq_ok {l : MatchList} {found number : Value} :
    matchedId l found = .ok number ↔ ∃ entry rest, found = .arr (.obj entry :: rest) ∧
      (entry.lookup l.idMember).getD .null = number := by
  constructor
  · intro read
    obtain ⟨v, first, member⟩ := ok_of_bind_ok read
    cases v with
    | obj entry =>
        cases member
        unfold Value.first at first
        split at first
        · cases first
          exact ⟨entry, _, rfl, rfl⟩
        · split at first <;> cases first
        all_goals cases first
    | _ => cases member
  · rintro ⟨entry, rest, rfl, rfl⟩
    rfl

/-- A number and a kind are read off a document if the number is taken from a list of that kind. -/
theorem readTitle_eq_ok {answer number : Value} {kind : MediaKind} :
    readTitle answer = .ok (number, some kind) ↔ ∃ l, Taken answer l number ∧ l.kind = kind := by
  constructor
  · intro read
    unfold readTitle at read
    split at read
    · obtain ⟨found, first, rest⟩ := ok_of_bind_ok read
      cases answer with
      | obj members =>
          rw [Listing.matchLists_eq, firstMatches_map] at first
          cases first
          cases one : Listing.all.find? fun l => (l.content (.obj members)).truthy with
          | none =>
              rw [one] at rest
              cases rest
          | some l =>
              rw [one] at rest
              obtain ⟨id, matched, same⟩ := ok_of_bind_ok rest
              cases same
              exact ⟨l, ⟨((Listing.find_all _ l).mp one).2, matchedId_eq_ok.mp matched⟩, rfl⟩
      | _ => cases first
    · cases read
  · rintro ⟨l, taken, rfl⟩
    obtain ⟨members, rfl⟩ := taken.isObject
    have one := (Listing.find_all (fun l => (l.content (.obj members)).truthy) l).mpr
      ⟨taken.truthy, taken.passed⟩
    have matched : matchedId l.asMatch (l.content (.obj members)) = .ok number :=
      matchedId_eq_ok.mpr taken.first
    have some : (Value.obj members).truthy = true := truthy_of_member taken.not_null
    rw [readTitle, if_pos some, Listing.matchLists_eq, firstMatches_map, one]
    change (do return (← matchedId l.asMatch (l.content (.obj members)), Option.some l.kind)) = _
    rw [matched]
    rfl

theorem byImdb_of_taken {answer number : Value} {l : Listing} (imdb : String) (tmdb : Option Int)
    (kind : Option MediaKind) (taken : Taken answer l number) :
    byImdb imdb tmdb kind answer = ⟨.str imdb, number, .ofKind? (kind.or (some l.kind))⟩ := by
  rw [byImdb, readTitle_eq_ok.mpr ⟨l, taken, rfl⟩]
  rfl

theorem readTitle_unkinded {answer number : Value} (read : readTitle answer = .ok (number, none)) :
    number = .null := by
  unfold readTitle at read
  split at read
  · obtain ⟨found, first, rest⟩ := ok_of_bind_ok read
    cases found with
    | none =>
        cases rest
        rfl
    | some found =>
        obtain ⟨id, matched, same⟩ := ok_of_bind_ok rest
        cases same
  · cases read
    rfl

theorem readImdb_of_named {answer name : Value} (given : name.truthy = true)
    (named : (answer.memberOrNull "external_ids").memberOrNull "imdb_id" = name) :
    readImdb answer = .ok name := by
  rw [← named] at given
  have ids : (answer.memberOrNull "external_ids").truthy = true := truthy_of_inner given
  have external : readExternal answer = .ok (answer.memberOrNull "external_ids") := by
    rw [readExternal, if_pos (truthy_of_inner ids), member_of_truthy ids]
    change Except.ok (Value.orElse _ _) = _
    rw [Value.orElse, if_pos ids]
  rw [readImdb, external]
  change (if (answer.memberOrNull "external_ids").truthy then _ else _) = _
  rw [if_pos ids, member_of_truthy given]
  change Except.ok (Value.orElse _ _) = _
  rw [Value.orElse, if_pos given, named]

theorem ask_plain {db : TitleDatabase} {shelf part : String} {fields : Fields}
    (fits : db.Fits (pathTo shelf part) fields) (kept : ∀ ch ∈ shelf.toList, Wire.IsSegmentChar ch)
    (plain : ∀ ch ∈ part.toList, Wire.IsSegmentChar ch) (c : Client) :
    c.ask (db.request (pathTo shelf part) fields) = c.reply := by
  rw [Client.ask, db.prepare_plain fields kept plain, if_pos fits]

variable {db : TitleDatabase} {imdb : String} {c : Client} {t : Int}

theorem result_byImdb (db : TitleDatabase) (marked : imdb.startsWith "tt" = true) (c : Client) :
    ((db.resolve (known (some imdb) none none)).run c).result =
      (db.heard c (db.finding imdb)).map (byImdb imdb none none) :=
  (db.resolve_byImdb marked rfl none c).result

theorem ends_byTmdb (db : TitleDatabase) (nonzero : t ≠ 0) (brief : Text.isBrief t = true)
    (kind : MediaKind) (c : Client) :
    (db.resolve (known none (some t) (some kind))).Ends c
      ((db.heard c (db.naming t kind)).map (byTmdb none t kind)) (db.afterAsk c (db.naming t kind))
      (db.asking c (db.naming t kind)) := db.resolve_byTmdb rfl nonzero brief kind c

theorem resolve_of_taken (marked : imdb.startsWith "tt" = true) (key : db.apiKey.truthy = true)
    {answer : Value} {l : Listing} (brings : (c.ask (db.finding imdb)).Brings answer)
    (taken : Taken answer l (.int t)) :
    ((db.resolve (known (some imdb) none none)).run c).result =
      .ok (known (some imdb) (some t) (some l.kind)) := by
  rw [db.result_byImdb marked, heard_of_brings key brings, Except.map, byImdb_of_taken imdb none none taken]
  rfl

/-- A number that is filled in is taken from the document that was found. -/
theorem taken_of_resolve (marked : imdb.startsWith "tt" = true) {found : IdentifierPair}
    (result : ((db.resolve (known (some imdb) none none)).run c).result = .ok found)
    (number : found.tmdb = .int t) :
    db.apiKey.truthy = true ∧ ∃ answer l, (c.ask (db.finding imdb)).Brings answer ∧
      Taken answer l (.int t) ∧ found = known (some imdb) (some t) (some l.kind) := by
  rw [db.result_byImdb marked] at result
  cases heard : db.heard c (db.finding imdb) with
  | error f =>
      rw [heard] at result
      cases result
  | ok answer =>
      rw [heard] at result
      have made : byImdb imdb none none answer = found := Except.ok.inj result
      unfold byImdb at made
      cases read : readTitle answer with
      | error f =>
          rw [read] at made
          cases made
          cases number
      | ok title =>
          obtain ⟨n, kind⟩ := title
          rw [read] at made
          cases made
          change n = .int t at number
          rw [number] at read
          cases kind with
          | none => cases readTitle_unkinded read
          | some kind =>
              obtain ⟨l, taken, rfl⟩ := readTitle_eq_ok.mp read
              obtain ⟨members, same⟩ := taken.isObject
              obtain ⟨key, brings⟩ := brings_of_heard (by rw [same]; nofun) heard
              exact ⟨key, answer, l, brings, taken, by rw [number]; rfl⟩

/-- A title is asked for in the collection of its kind. -/
theorem events_naming (key : db.apiKey.truthy = true) (nonzero : t ≠ 0) (brief : Text.isBrief t = true)
    (kind : MediaKind) (isOpen : c.isClosed = false) :
    ((db.resolve (known none (some t) (some kind))).run c).events =
      if db.Fits (pathTo kind.shelf (toString t)) [("append_to_response", .str "external_ids")] then
        [.sent (db.sentTo (pathTo kind.shelf (toString t)) [("append_to_response", .str "external_ids")])]
      else [] := by
  rw [db.events_resolve _ (db.ends_byTmdb nonzero brief kind c), events_asking, if_pos ⟨isOpen, key⟩, naming,
    db.prepare_plain _ kind.shelf_plain (Wire.isSegmentChar_of_int t)]
  split <;> rfl

/-- What a title's document has as its IMDb identifier is filled in. -/
theorem resolve_of_named (key : db.apiKey.truthy = true) (nonzero : t ≠ 0) (brief : Text.isBrief t = true)
    {kind : MediaKind} {answer : Value} (brings : (c.ask (db.naming t kind)).Brings answer) (given : imdb ≠ "")
    (named : (answer.memberOrNull "external_ids").memberOrNull "imdb_id" = .str imdb) :
    ((db.resolve (known none (some t) (some kind))).run c).result =
      .ok (known (some imdb) (some t) (some kind)) := by
  have truthy : (Value.str imdb).truthy = true := decide_eq_true given
  rw [(db.ends_byTmdb nonzero brief kind c).result, heard_of_brings key brings,
    Except.map, byTmdb, readImdb_of_named truthy named]
  rfl

theorem brief_of_resolve {kind : MediaKind}
    (result : ((db.resolve (known none (some t) (some kind))).run c).result =
      .ok (known (some imdb) (some t) (some kind))) : Text.isBrief t = true := by
  cases brief : Text.isBrief t with
  | true => rfl
  | false =>
      rw [db.resolve_long rfl brief] at result
      cases result

theorem key_of_resolve (nonzero : t ≠ 0) {kind : MediaKind}
    (result : ((db.resolve (known none (some t) (some kind))).run c).result =
      .ok (known (some imdb) (some t) (some kind))) : db.apiKey.truthy = true := by
  rw [(db.ends_byTmdb nonzero (brief_of_resolve result) kind c).result] at result
  cases heard : db.heard c (db.naming t kind) with
  | error f =>
      rw [heard] at result
      cases result
  | ok answer =>
      refine (brings_of_heard ?_ heard).1
      rintro rfl
      rw [heard] at result
      cases result

/-- The pair of a title is the same from both of its identifiers. A number that is found is asked for in
the collection of the list that it was taken from, unless the address or its query is too long to be sent;
and if the document there has the identifier that the number was found by, the pair that it completes is
the pair that was found. The other way round, an identifier from a title's document leads back to the title
if it is found first in the list of its kind, with nothing in the lists preferred to that. -/
theorem resolve_both_ways (db : TitleDatabase) {imdb : String} (marked : imdb.startsWith "tt" = true) :
    (∀ c found t, ((db.resolve (known (some imdb) none none)).run c).result = .ok found →
      found.isComplete = true → found.tmdb = .int t →
      ∃ answer, (c.ask (db.finding imdb)).Brings answer ∧ (∃ l, Taken answer l (.int t)) ∧
        ∀ l, Taken answer l (.int t) → found = known (some imdb) (some t) (some l.kind) ∧
          (∀ d, d.isClosed = false →
            ((db.resolve (known none (some t) (some l.kind))).run d).events =
              if db.Fits (pathTo l.shelf (toString t)) [("append_to_response", .str "external_ids")] then
                [.sent (db.sentTo (pathTo l.shelf (toString t))
                  [("append_to_response", .str "external_ids")])]
              else []) ∧
          (∀ d document, (d.ask (db.naming t l.kind)).Brings document →
            (document.memberOrNull "external_ids").memberOrNull "imdb_id" = .str imdb →
            ((db.resolve (known none (some t) (some l.kind))).run d).result = .ok found)) ∧
    (∀ c t kind, t ≠ 0 →
      ((db.resolve (known none (some t) (some kind))).run c).result =
        .ok (known (some imdb) (some t) (some kind)) →
      ∀ d answer, (d.ask (db.finding imdb)).Brings answer → Taken answer (.ofKind kind) (.int t) →
        ((db.resolve (known (some imdb) none none)).run d).result =
          .ok (known (some imdb) (some t) (some kind))) := by
  have given : imdb ≠ "" := of_decide_eq_true (truthy_of_marked marked)
  constructor
  · intro c found t result complete number
    obtain ⟨key, answer, l, brings, taken, rfl⟩ := taken_of_resolve marked result number
    have nonzero : t ≠ 0 := of_decide_eq_true (Bool.and_eq_true_iff.mp complete).2
    have brief : Text.isBrief t = true := taken.isBrief (isBrief_of_brings brings)
    refine ⟨answer, brings, ⟨l, taken⟩, ?_⟩
    intro l' taken'
    cases taken.same_list taken'
    refine ⟨rfl, ?_, ?_⟩
    · intro d isOpen
      rw [← l.shelf_kind]
      exact events_naming key nonzero brief l.kind isOpen
    · intro d document brought named
      exact resolve_of_named key nonzero brief brought given named
  · intro c t kind nonzero result d answer brings taken
    have found := resolve_of_taken marked (key_of_resolve nonzero result) brings taken
    rw [Listing.kind_ofKind] at found
    exact found

def listed (l : Listing) (t : Int) : Value :=
  .obj [(l.member, .arr [.obj [(l.numberedBy, .int t)]])]

theorem taken_listed (l : Listing) (t : Int) : Taken (listed l t) l (.int t) := by
  constructor
  · intro p member
    cases l <;> cases p <;> first
      | rfl
      | exact absurd member (by decide)
  · cases l <;> exact ⟨_, _, rfl, rfl⟩

def answering (r : Wire.Response) : Client := ⟨false, [], .answered r⟩

def episodeFound : Wire.Response :=
  ⟨200, [123, 34, 116, 118, 95, 101, 112, 105, 115, 111, 100, 101, 95, 114, 101, 115, 117, 108,
    116, 115, 34, 58, 91, 123, 34, 115, 104, 111, 119, 95, 105, 100, 34, 58, 55, 125, 93, 125], 1000⟩

def seriesFound : Wire.Response :=
  ⟨200, [123, 34, 116, 118, 95, 114, 101, 115, 117, 108, 116, 115, 34, 58, 91, 123, 34, 105, 100,
    34, 58, 55, 125, 93, 125], 1000⟩

def filmFound : Wire.Response :=
  ⟨200, [123, 34, 109, 111, 118, 105, 101, 95, 114, 101, 115, 117, 108, 116, 115, 34, 58, 91, 123,
    34, 105, 100, 34, 58, 55, 125, 93, 125], 1000⟩

def titleNamed : Wire.Response :=
  ⟨200, [123, 34, 101, 120, 116, 101, 114, 110, 97, 108, 95, 105, 100, 115, 34, 58, 123, 34, 105,
    109, 100, 98, 95, 105, 100, 34, 58, 34, 116, 116, 49, 34, 125, 125], 1000⟩

theorem brings_finding {key : String} (fits : (keyed key).Fits (pathTo "find" "tt1")
    [("external_source", .str "imdb_id")]) {r : Wire.Response} {answer : Value}
    (success : r.isSuccess = true) (document : r.document = .ok answer) :
    ((answering r).ask ((keyed key).finding "tt1")).Brings answer := by
  have find : ∀ ch ∈ "find".toList, Wire.IsSegmentChar ch := Wire.forall_of_all (by decide)
  have name : ∀ ch ∈ "tt1".toList, Wire.IsSegmentChar ch := Wire.forall_of_all (by decide)
  rw [finding, ask_plain fits find name]
  exact ⟨r, rfl, success, document⟩

theorem resolve_both_ways_of_episode :
    ∃ sent, (((keyed "key").resolve (known none (some 7) (some .series))).run
          (answering titleNamed)).events = [.sent sent] ∧
      sent.url = "https://api.themoviedb.org/3/tv/7?api_key=key&append_to_response=external_ids" ∧
      (((keyed "key").resolve (known none (some 7) (some .series))).run (answering titleNamed)).result =
        .ok (known (some "tt1") (some 7) (some .series)) ∧
      (((keyed "key").resolve (known (some "tt1") none none)).run (answering seriesFound)).result =
        .ok (known (some "tt1") (some 7) (some .series)) := by
  have marked : "tt1".startsWith "tt" = true := by simp
  have short : (keyed "key").Fits (pathTo "find" "tt1") [("external_source", .str "imdb_id")] := by decide
  have fits : (keyed "key").Fits (pathTo MediaKind.series.shelf (toString (7 : Int)))
      [("append_to_response", .str "external_ids")] := by decide
  have found := resolve_of_taken marked rfl (brings_finding short (r := episodeFound) rfl rfl)
    (taken_listed .episodes 7)
  have named : ((answering titleNamed).ask ((keyed "key").naming 7 .series)).Brings
      (.obj [("external_ids", .obj [("imdb_id", .str "tt1")])]) := by
    rw [naming, ask_plain fits (MediaKind.shelf_plain .series) (Wire.isSegmentChar_of_int 7)]
    exact ⟨titleNamed, rfl, rfl, rfl⟩
  obtain ⟨forth, back⟩ := resolve_both_ways (keyed "key") marked
  obtain ⟨answer, -, ⟨l, taken⟩, same⟩ := forth (answering episodeFound) _ 7 found rfl rfl
  obtain ⟨pair, events, result⟩ := same l taken
  have kind : l.kind = .series := by
    cases l with
    | movies => cases pair
    | _ => rfl
  rw [← l.shelf_kind, kind] at events
  rw [kind] at result
  have again := result (answering titleNamed) _ named rfl
  refine ⟨_, (events (answering titleNamed) rfl).trans (if_pos fits), by decide, again, ?_⟩
  exact back (answering titleNamed) 7 .series (by decide) again (answering seriesFound) _
    (brings_finding short (r := seriesFound) rfl rfl) (taken_listed .series 7)

theorem truthy_keyed {key : String} (given : key ≠ "") : (keyed key).apiKey.truthy = true :=
  decide_eq_true given

/-- A key with which a search can be sent, and the request for a title's document cannot. -/
def wideKey : String := String.ofList (List.replicate (Wire.longest - 36) 'k')

theorem length_query {key : String} (plain : ∀ ch ∈ key.toList, Wire.isUnreserved ch = true)
    (name value : String) : ((keyed key).query [(name, .str value)]).length =
      9 + key.length + (Wire.formPair (name, value)).length := by
  have spelled : (keyed key).query [(name, .str value)] =
      (Wire.formText "api_key" ++ '=' :: Wire.formText key) ++ '&' :: Wire.formPair (name, value) := rfl
  have seven : (Wire.formText "api_key").length = 7 := by decide
  rw [spelled, Wire.formText_unreserved plain]
  simp only [List.length_append, List.length_cons, seven, String.length_toList]
  omega

theorem length_wideKey : wideKey.length = Wire.longest - 36 := Wire.length_repeated ..

theorem wideKey_unreserved : ∀ ch ∈ wideKey.toList, Wire.isUnreserved ch = true :=
  Wire.forall_repeated (by decide) _

/-- A number that was found is not asked for where its request is longer than the one that found it. -/
theorem resolve_both_ways_not_wide :
    "tt1".startsWith "tt" = true ∧ (keyed wideKey).apiKey.truthy = true ∧
      ((answering filmFound).ask ((keyed wideKey).finding "tt1")).Brings (listed .movies 7) ∧
      Taken (listed .movies 7) .movies (.int 7) ∧
      (((keyed wideKey).resolve (known (some "tt1") none none)).run (answering filmFound)).result =
        .ok (known (some "tt1") (some 7) (some .movie)) ∧
      (((keyed wideKey).resolve (known none (some 7) (some .movie))).run (answering titleNamed)).events =
        [] := by
  have marked : "tt1".startsWith "tt" = true := by simp
  have key : (keyed wideKey).apiKey.truthy = true := by
    apply truthy_keyed
    intro blank
    have long := length_wideKey
    rw [blank] at long
    revert long
    decide
  have find : (Wire.formPair ("external_source", "imdb_id")).length = 23 := by decide
  have name : (Wire.formPair ("append_to_response", "external_ids")).length = 31 := by decide
  have fits : (keyed wideKey).Fits (pathTo "find" "tt1") [("external_source", .str "imdb_id")] := by
    refine ⟨by decide, ?_⟩
    rw [length_query wideKey_unreserved, length_wideKey, find]
    decide
  have wide : ¬ (keyed wideKey).Fits (pathTo "movie" (toString (7 : Int)))
      [("append_to_response", .str "external_ids")] := by
    intro fits
    have short := fits.2
    rw [length_query wideKey_unreserved, length_wideKey, name] at short
    revert short
    decide
  have brings := brings_finding fits (r := filmFound) rfl rfl
  refine ⟨marked, key, brings, taken_listed .movies 7, ?_, ?_⟩
  · exact resolve_of_taken marked key brings (taken_listed .movies 7)
  · rw [events_naming key (by decide) (Text.isBrief_of_lt 1 (by decide) (by decide)) .movie rfl]
    exact if_neg wide

end DebridCache.TitleDatabase
