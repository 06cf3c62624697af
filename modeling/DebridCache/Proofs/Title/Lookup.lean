import DebridCache.Proofs.Availability.Answer
import DebridCache.Proofs.Composed
import DebridCache.Proofs.Title.Address
import DebridCache.Proofs.Value.Brief

/-!
Completing a pair of identifiers. A lookup is one request at most, and what comes of it is read off the
document that it brings, with nothing from a document of another shape. So unless the lookup is withdrawn
a pair is returned, and what it had it keeps, as long as its number can be written.
-/

namespace DebridCache

open Wire (Request Sent Fields Outcome)
open Exchange (caught)

theorem Wire.Outcome.met_of_reply {c : Client} (met : c.reply ≠ .failed .cancelled) (r : Request) :
    c.ask r ≠ .failed .cancelled :=
  fun withdrawn => met (Client.asking_of_cancelled withdrawn).1

def Wire.Outcome.Brings (o : Outcome) (answer : Value) : Prop :=
  ∃ r, o = .answered r ∧ r.isSuccess = true ∧ r.document = .ok answer

namespace TitleDatabase

/-- What a document that was found by an IMDb identifier says of the title. -/
def readTitle (answer : Value) : Except Fault (Value × Option MediaKind) :=
  if answer.truthy then do
    match ← firstMatches answer matchLists with
    | some (l, found) => return (← matchedId l found, some l.kind)
    | none => return (.null, none)
  else return (.null, none)

def readExternal (answer : Value) : Except Fault Value :=
  if answer.truthy then do return (← answer.member "external_ids").orElse .null else return .null

def readImdb (answer : Value) : Except Fault Value := do
  let ids ← readExternal answer
  if ids.truthy then return (← ids.member "imdb_id").orElse .null else return .null

def asking (db : TitleDatabase) (c : Client) (r : Request) : List (Sent × Outcome) :=
  if db.apiKey.truthy then c.asking r else []

def afterAsk (db : TitleDatabase) (c : Client) (r : Request) : Client :=
  if db.apiKey.truthy then c.afterAsk r else c

/-- The request that looks for the title with an IMDb identifier. -/
def finding (db : TitleDatabase) (imdb : String) : Request :=
  db.request (pathTo "find" imdb) [("external_source", .str "imdb_id")]

/-- The request for a title's document, which has its identifiers elsewhere. -/
def naming (db : TitleDatabase) (tmdb : Int) (kind : MediaKind) : Request :=
  db.request (pathTo kind.shelf (toString tmdb)) [("append_to_response", .str "external_ids")]

/-- That request in the form that is sent; for it the number has to be written. -/
def namingSent (db : TitleDatabase) (tmdb : Int) (kind : MediaKind) : Except Fault Sent := do
  let number ← (Value.int tmdb).spell
  (db.request (pathTo kind.shelf number) [("append_to_response", .str "external_ids")]).prepare

/-- What a request's outcome comes to: null for a status that is no success, a fault where no document
can be read. -/
def settled (o : Outcome) : Except Fault Value := do
  let r ← o.response
  if r.isSuccess then r.document else return .null

/-- What a lookup goes on with: the document that it brings, or null. Without a key nothing is asked, and
a withdrawn lookup does not go on. -/
def heard (db : TitleDatabase) (c : Client) (r : Request) : Except Fault Value :=
  if db.apiKey.truthy then do return (← caught (settled (c.ask r))).toOption.getD .null
  else return .null

theorem heard_failsOnly (db : TitleDatabase) (c : Client) (r : Request) :
    FailsOnly (· = .cancelled) (db.heard c r) := by
  unfold heard
  split
  · exact (Exchange.caught_failsOnly _).bind fun e => .ok _
  · exact .ok _

theorem settled_failsOnly {o : Outcome} (met : o ≠ .failed .cancelled) :
    FailsOnly (· ≠ .cancelled) (settled o) := by
  cases o with
  | failed f => exact .error fun same => met (congrArg Outcome.failed same)
  | answered r =>
      change FailsOnly _ (if r.isSuccess then r.document else .ok .null)
      unfold Wire.Response.document
      split
      · split
        · exact .ok _
        · exact .error nofun
        · exact .error nofun
      · exact .ok _

theorem heard_of_met (db : TitleDatabase) {c : Client} (met : c.reply ≠ .failed .cancelled) (r : Request) :
    ∃ answer, db.heard c r = .ok answer := by
  have kept := settled_failsOnly (Outcome.met_of_reply met r)
  unfold heard
  split
  · rw [Exchange.caught_eq fun withdrawn => kept _ withdrawn rfl]
    exact ⟨_, rfl⟩
  · exact ⟨_, rfl⟩

theorem heard_of_brings {db : TitleDatabase} (key : db.apiKey.truthy = true) {c : Client} {r : Request}
    {answer : Value} (brings : (c.ask r).Brings answer) : db.heard c r = .ok answer := by
  obtain ⟨response, outcome, success, document⟩ := brings
  have brought : settled (c.ask r) = .ok answer := by
    rw [outcome]
    change (if response.isSuccess then response.document else .ok .null) = _
    rw [if_pos success, document]
  rw [heard, if_pos key, brought]
  rfl

theorem brings_of_settled {o : Outcome} {answer : Value} (some : answer ≠ .null)
    (h : settled o = .ok answer) : o.Brings answer := by
  cases o with
  | failed f => cases h
  | answered r =>
      change (if r.isSuccess then r.document else .ok .null) = _ at h
      split at h
      · exact ⟨r, rfl, ‹_›, h⟩
      · cases h
        exact absurd rfl some

theorem brings_of_heard {db : TitleDatabase} {c : Client} {r : Request} {answer : Value}
    (some : answer ≠ .null) (heard : db.heard c r = .ok answer) :
    db.apiKey.truthy = true ∧ (c.ask r).Brings answer := by
  unfold TitleDatabase.heard at heard
  split at heard
  · obtain ⟨e, kept, left⟩ := ok_of_bind_ok heard
    cases Exchange.eq_of_caught kept
    cases brought : settled (c.ask r) with
    | ok v =>
        rw [brought] at left
        cases left
        exact ⟨‹_›, brings_of_settled some brought⟩
    | error f =>
        rw [brought] at left
        cases left
        exact absurd rfl some
  · cases heard
    exact absurd rfl some

theorem submit_settle_ends (r : Request) (c : Client) :
    (Exchange.submit r >>= settle).Ends c (settled (c.ask r)) (c.afterAsk r) (c.asking r) := by
  have submitted := Exchange.Ends.submit r c
  cases answered : c.ask r with
  | failed f =>
      rw [answered] at submitted
      exact submitted.bind_error
  | answered response =>
      rw [answered] at submitted
      rw [← List.append_nil (c.asking r)]
      refine submitted.bind ?_
      change (settle response).Ends _ (if response.isSuccess then response.document else .ok .null) _ _
      unfold settle
      split
      · exact .lift _ _
      · exact .note (.done Value.null _)

theorem fetch_ends (db : TitleDatabase) (endpoint : String) (fields : Fields) (c : Client) :
    (db.fetch endpoint fields).Ends c (db.heard c (db.request endpoint fields))
      (db.afterAsk c (db.request endpoint fields)) (db.asking c (db.request endpoint fields)) := by
  unfold fetch heard afterAsk asking
  split
  · refine (submit_settle_ends (db.request endpoint fields) c).catching.bind_quiet fun e => ?_
    cases e with
    | ok v => exact .done v _
    | error f => exact .note (.done Value.null _)
  · exact .note (.done Value.null c)

theorem find_ends (db : TitleDatabase) (imdb : String) (c : Client) :
    (db.find (.str imdb)).Ends c (db.heard c (db.finding imdb)) (db.afterAsk c (db.finding imdb))
      (db.asking c (db.finding imdb)) :=
  db.fetch_ends (pathTo "find" imdb) [("external_source", .str "imdb_id")] c

theorem readTitle_ends (imdb answer : Value) (c : Client) :
    (if answer.truthy then readMatches imdb answer else pure (.null, none)).Ends c (readTitle answer)
      c [] := by
  unfold readTitle
  split
  · refine .lift_bind fun found => ?_
    cases found with
    | none => exact .note (.done _ c)
    | some found => exact .lift_bind fun id => .note (.done _ c)
  · exact .done _ c

theorem truthy_of_marked {imdb : String} (marked : imdb.startsWith imdbMark = true) :
    (Value.str imdb).truthy = true := by
  apply decide_eq_true
  rintro rfl
  exact absurd marked (by decide)

theorem imdbToTmdb_ends (db : TitleDatabase) {imdb : String} (marked : imdb.startsWith imdbMark = true)
    (c : Client) :
    (db.imdbToTmdb (.str imdb)).Ends c (db.heard c (db.finding imdb) >>= readTitle)
      (db.afterAsk c (db.finding imdb)) (db.asking c (db.finding imdb)) := by
  have looks : looksLikeImdb (.str imdb) = .ok true := congrArg Except.ok marked
  unfold imdbToTmdb
  dsimp only
  rw [if_pos (truthy_of_marked marked), looks]
  exact (db.find_ends imdb c).bind_quiet fun answer => readTitle_ends (.str imdb) answer _

/-- What does not look like an IMDb identifier is not looked up. -/
theorem imdbToTmdb_quiet (db : TitleDatabase) {imdb : String}
    (unmarked : imdb.startsWith imdbMark = false) (c : Client) :
    (db.imdbToTmdb (.str imdb)).Ends c (.ok (.null, none)) c [] := by
  have looks : looksLikeImdb (.str imdb) = .ok false := congrArg Except.ok unmarked
  unfold imdbToTmdb
  dsimp only
  split
  · rw [looks]
    exact .note (.done _ c)
  · exact .note (.done _ c)

theorem spell_int {n : Int} (brief : Text.isBrief n = true) : (Value.int n).spell = .ok (toString n) :=
  (Value.spell_of_brief (v := .int n) brief).trans (congrArg Except.ok String.ofList_toList)

theorem namingSent_eq_ok {db : TitleDatabase} {tmdb : Int} {kind : MediaKind} {sent : Sent} :
    db.namingSent tmdb kind = .ok sent ↔
      Text.isBrief tmdb = true ∧ (db.naming tmdb kind).prepare = .ok sent := by
  constructor
  · intro made
    obtain ⟨number, spelled, prepared⟩ := ok_of_bind_ok made
    have brief : Text.isBrief tmdb = true := (Value.brief_of_spell spelled).1
    rw [spell_int brief] at spelled
    cases spelled
    exact ⟨brief, prepared⟩
  · rintro ⟨brief, prepared⟩
    rw [namingSent, spell_int brief]
    exact prepared

theorem externalIds_ends (db : TitleDatabase) {tmdb : Int} (brief : Text.isBrief tmdb = true)
    (kind : MediaKind) (c : Client) :
    (db.externalIds (.int tmdb) (.str kind.mediaType)).Ends c
      (db.heard c (db.naming tmdb kind) >>= readExternal) (db.afterAsk c (db.naming tmdb kind))
      (db.asking c (db.naming tmdb kind)) := by
  have shelf : (Value.str kind.mediaType).spell = .ok kind.shelf := congrArg Except.ok kind.shelf_eq
  have named := db.fetch_ends (pathTo kind.shelf (toString tmdb))
    [("append_to_response", .str "external_ids")] c
  unfold externalIds
  rw [shelf, spell_int brief]
  refine named.bind_quiet fun answer => ?_
  unfold readExternal
  split
  · exact .lift_bind fun ids => .done _ _
  · exact .done _ _

theorem tmdbToImdb_ends (db : TitleDatabase) {tmdb : Int} (nonzero : tmdb ≠ 0)
    (brief : Text.isBrief tmdb = true) (kind : MediaKind) (c : Client) :
    (db.tmdbToImdb (.int tmdb) (.kind kind)).Ends c (db.heard c (db.naming tmdb kind) >>= readImdb)
      (db.afterAsk c (db.naming tmdb kind)) (db.asking c (db.naming tmdb kind)) := by
  have known : (Value.int tmdb).truthy = true := decide_eq_true nonzero
  unfold tmdbToImdb
  rw [known]
  dsimp only [KindLabel.parse]
  unfold readImdb
  rw [← bind_assoc]
  refine (db.externalIds_ends brief kind c).bind_quiet fun ids => ?_
  split
  · refine .lift_bind fun imdb => ?_
    unfold Value.orElse
    split
    · exact .note (.done imdb _)
    · exact .note (.done Value.null _)
  · exact .note (.done Value.null _)

theorem tmdbToImdb_quiet (db : TitleDatabase) {tmdb : Value} (brief : tmdb.isBrief = true) (c : Client) :
    (db.tmdbToImdb tmdb .unknown).Ends c (.ok .null) c [] := by
  unfold tmdbToImdb
  rw [Value.spell_of_brief brief]
  cases tmdb.truthy <;> exact .note (.done Value.null c)

/-- A pair with one half known is given back as its lookup completes it, or as it was where that fails. -/
theorem resolve_ends {db : TitleDatabase} {pair : IdentifierPair} (half : pair.isComplete = false)
    (some : pair.isEmpty = false) {words : String} (spelled : pair.spell = .ok words)
    {c after : Client} {r : Except Fault IdentifierPair}
    {said : List (Sent × Outcome)} (looked : (db.lookUp pair).Ends c r after said) :
    (db.resolve pair).Ends c (do return (← caught r).toOption.getD pair) after said := by
  unfold resolve
  rw [half, some]
  refine looked.catching.bind_quiet fun e => ?_
  cases e with
  | ok found => exact .done found _
  | error f =>
      rw [spelled]
      exact .note (.done pair _)

/-- What is heard and then read is lost where it cannot be read, and only there. -/
theorem caught_read {α β : Type} {heard : Except Fault Value} {read : Value → Except Fault α}
    (withdrawn : FailsOnly (· = .cancelled) heard)
    (kept : ∀ answer, FailsOnly (· ≠ .cancelled) (read answer)) (g : α → β) (lost : β) :
    (do return (← caught ((heard >>= read).map g)).toOption.getD lost) =
      heard.map fun answer => ((read answer).map g).toOption.getD lost := by
  cases heard with
  | error f =>
      rw [withdrawn f rfl]
      rfl
  | ok answer =>
      change (caught ((read answer).map g) >>= _) = _
      rw [Exchange.caught_eq fun failed => (kept answer).map g _ failed rfl]
      rfl

theorem first_failsOnly (v : Value) : FailsOnly (· ≠ .cancelled) v.first := by
  unfold Value.first
  split
  · exact .ok _
  · split
    · exact .ok _
    · exact .error nofun
  · exact .error nofun
  · exact .error nofun
  · exact .error nofun

theorem firstMatches_failsOnly (answer : Value) (lists : List MatchList) :
    FailsOnly (· ≠ .cancelled) (firstMatches answer lists) := by
  induction lists with
  | nil => exact .ok none
  | cons l ls ih =>
      refine (answer.member_failsOnly l.member).bind fun found => ?_
      split
      · exact .ok _
      · exact ih

theorem readTitle_failsOnly (answer : Value) : FailsOnly (· ≠ .cancelled) (readTitle answer) := by
  unfold readTitle
  split
  · refine (firstMatches_failsOnly answer matchLists).bind fun found => ?_
    cases found with
    | none => exact .ok _
    | some found =>
        refine FailsOnly.bind ?_ fun id => .ok _
        exact (first_failsOnly found.2).bind fun v => v.member_failsOnly found.1.idMember
  · exact .ok _

theorem readImdb_failsOnly (answer : Value) : FailsOnly (· ≠ .cancelled) (readImdb answer) := by
  refine FailsOnly.bind ?_ fun ids => ?_
  · unfold readExternal
    split
    · exact (answer.member_failsOnly "external_ids").bind fun ids => .ok _
    · exact .ok _
  · split
    · exact (ids.member_failsOnly "imdb_id").bind fun imdb => .ok _
    · exact .ok _

end TitleDatabase
end DebridCache
