import DebridCache.Title.Lookup

/-!
The title database together with its client, and the operations done with them one after another.
-/

namespace DebridCache

inductive TitleOperation where
  | resolve (pair : IdentifierPair)
  | imdbToTmdb (imdb : Value)
  | tmdbToImdb (tmdb : Value) (label : KindLabel)
  | complete (imdb tmdb kind : Value)
  | find (imdb : Value)
  | externalIds (tmdb mediaType : Value)
  | assignKey (v : Value)
  | close
  /-- A call of what the database does not have. -/
  | unsupported (member : String)
  deriving Repr, Inhabited

structure TitleSession where
  database : TitleDatabase
  client : Client
  deriving Inhabited

inductive TitleReply where
  | nothing
  | value (v : Value)
  | pair (pair : IdentifierPair)
  | identified (tmdb : Value) (kind : Option MediaKind)
  deriving Repr, Inhabited

structure TitleReport where
  result : Except Fault TitleReply
  events : List Event
  entries : List Entry

namespace TitleSession

def work {α : Type} (s : TitleSession) (x : Exchange α) (reply : α → TitleReply) :
    TitleSession × TitleReport :=
  let r := x.run s.client
  ({ s with client := r.client }, ⟨r.result.map reply, r.events, r.entries⟩)

def perform (s : TitleSession) : TitleOperation → TitleSession × TitleReport
  | .resolve pair => s.work (s.database.resolve pair) .pair
  | .imdbToTmdb imdb => s.work (s.database.imdbToTmdb imdb) fun found => .identified found.1 found.2
  | .tmdbToImdb tmdb label => s.work (s.database.tmdbToImdb tmdb label) .value
  | .complete imdb tmdb kind => s.work (s.database.complete imdb tmdb kind) .pair
  | .find imdb => s.work (s.database.find imdb) .value
  | .externalIds tmdb mediaType => s.work (s.database.externalIds tmdb mediaType) .value
  | .assignKey v => ({ s with database.apiKey := v }, ⟨.ok .nothing, [], []⟩)
  | .close => ({ s with client := s.client.close }, ⟨.ok .nothing, [], []⟩)
  | .unsupported member => (s, ⟨.error (.noMember "IdentifierResolver" member), [], []⟩)

def performAll (s : TitleSession) : List TitleOperation → TitleSession × List TitleReport
  | [] => (s, [])
  | o :: os =>
    let (s, report) := s.perform o
    let (s, reports) := s.performAll os
    (s, report :: reports)

end TitleSession
end DebridCache
