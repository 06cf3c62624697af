import DebridCache.Title
import DebridCache.Title.Database

/-!
Completing a pair of identifiers by one lookup. What a caller knows already is never lost, and a lookup
that fails leaves the pair as it was.
-/

namespace DebridCache.TitleDatabase

def imdbMark : String := "tt"

/-- Whether a value that counts as true starts like an IMDb identifier. -/
def looksLikeImdb : Value → Except Fault Bool
  | .str s => .ok (s.startsWith imdbMark)
  | v => .error (.noMember v.kindName "startswith")

/-- A list of matches in a lookup's answer, and how a match in it is read. -/
structure MatchList where
  member : String
  idMember : String
  kind : MediaKind
  label : String

/-- In order of preference. An episode stands for its series. -/
def matchLists : List MatchList :=
  [⟨"movie_results", "id", .movie, "movie"⟩,
   ⟨"tv_results", "id", .series, "series"⟩,
   ⟨"tv_episode_results", "show_id", .series, "series, from episode"⟩]

def firstMatches (answer : Value) : List MatchList → Except Fault (Option (MatchList × Value))
  | [] => .ok none
  | l :: ls => do
    let found ← answer.member l.member
    if found.truthy then return some (l, found) else firstMatches answer ls

def matchedId (l : MatchList) (found : Value) : Except Fault Value := do
  (← found.first).member l.idMember

def readMatches (imdb answer : Value) : Exchange (Value × Option MediaKind) := do
  match ← Exchange.lift (firstMatches answer matchLists) with
  | some (l, found) =>
    let id ← Exchange.lift (matchedId l found)
    Exchange.log .debug
      ("IMDb " ++ imdb.text ++ " -> TMDB " ++ id.text ++ " (" ++ l.label ++ ")")
    return (id, some l.kind)
  | none =>
    Exchange.log .info ("No TMDB match found for IMDb " ++ imdb.text)
    return (.null, none)

def imdbToTmdb (db : TitleDatabase) (imdb : Value) : Exchange (Value × Option MediaKind) := do
  let valid ← if imdb.truthy then Exchange.lift (looksLikeImdb imdb) else pure false
  if valid then
    let answer ← db.find imdb
    if answer.truthy then readMatches imdb answer else return (.null, none)
  else
    Exchange.log .warning ("Invalid IMDb ID: " ++ imdb.text)
    return (.null, none)

/-- The IMDb identifier of a title; its kind says in which namespace the TMDB identifier is. -/
def tmdbToImdb (db : TitleDatabase) (tmdb : Value) (label : KindLabel) : Exchange Value := do
  match tmdb.truthy, label.parse with
  | true, some kind =>
    let ids ← db.externalIds tmdb (.str kind.mediaType)
    let imdb ← if ids.truthy then Exchange.lift (ids.member "imdb_id") else pure .null
    if imdb.truthy then
      Exchange.log .debug ("TMDB " ++ tmdb.text ++ " -> IMDb " ++ imdb.text)
      return imdb
    else
      Exchange.log .info ("No IMDb ID found for TMDB " ++ tmdb.text ++ " (" ++ kind.mediaType ++ ")")
      return .null
  | _, _ =>
    let number ← Exchange.lift tmdb.spell
    let kind ← Exchange.lift label.spell
    Exchange.log .warning ("Invalid parameters: tmdb_id=" ++ number ++ ", kind=" ++ kind)
    return .null

/-- The lookup for the missing half of a pair that has one half. -/
def lookUp (db : TitleDatabase) (pair : IdentifierPair) : Exchange IdentifierPair := do
  if pair.imdb.truthy then
    let (tmdb, kind) ← db.imdbToTmdb pair.imdb
    return ⟨pair.imdb, tmdb, pair.kind.orElse (.ofKind? kind)⟩
  else
    let imdb ← db.tmdbToImdb pair.tmdb pair.kind
    return ⟨imdb, pair.tmdb, pair.kind⟩

/-- The pair with its missing half filled in where the database knows it. A failure is logged with the
pair, which cannot be done where a number of it is too long. -/
def resolve (db : TitleDatabase) (pair : IdentifierPair) : Exchange IdentifierPair := do
  if pair.isComplete then return pair
  else if pair.isEmpty then
    Exchange.log .debug "No IDs available to convert"
    return ⟨.null, .null, pair.kind⟩
  else
    match ← (db.lookUp pair).attempt with
    | .ok found => return found
    | .error fault =>
      let words ← Exchange.lift pair.spell
      Exchange.report .error ("Error completing IDs for " ++ words) fault
      return pair

def complete (db : TitleDatabase) (imdb tmdb kind : Value) : Exchange IdentifierPair :=
  db.resolve ⟨imdb, tmdb, .ofKind? (MediaKind.parse kind)⟩

end DebridCache.TitleDatabase
