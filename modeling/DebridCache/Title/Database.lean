import DebridCache.Exchange

/-!
The title database, asked for one document at a time. A request that fails for whatever reason gives
null, and the failure is logged.
-/

namespace DebridCache

structure TitleDatabase where
  apiKey : Value
  timeout : Value
  deriving Repr, Inhabited

namespace TitleDatabase

def site : Wire.Site := ⟨"https://api.themoviedb.org", "/3", rfl⟩

def request (db : TitleDatabase) (endpoint : String) (fields : Wire.Fields) : Wire.Request where
  method := .get
  site := site
  endpoint := endpoint
  authorization := none
  query := some (("api_key", db.apiKey) :: fields)
  timeout := db.timeout
  payload := .nothing

/-- A response's document, or null for a status that is no success. -/
def settle (r : Wire.Response) : Exchange Value :=
  if r.isSuccess then Exchange.lift r.document
  else do
    Exchange.log .error ("TMDB API error: " ++ toString r.status ++ " - " ++ String.ofList r.text)
    return .null

/-- The document at an endpoint; without a key nothing is asked. -/
def fetch (db : TitleDatabase) (endpoint : String) (fields : Wire.Fields) : Exchange Value :=
  if db.apiKey.truthy then do
    match ← (Exchange.submit (db.request endpoint fields) >>= settle).attempt with
    | .ok v => return v
    | .error fault =>
      Exchange.report .error "TMDB request failed" fault
      return .null
  else do
    Exchange.log .warning "TMDB API key not configured"
    return .null

def find (db : TitleDatabase) (imdb : Value) : Exchange Value := do
  let name ← Exchange.lift imdb.spell
  db.fetch ("/find/" ++ name) [("external_source", .str "imdb_id")]

def externalIds (db : TitleDatabase) (tmdb mediaType : Value) : Exchange Value := do
  let shelf ← Exchange.lift mediaType.spell
  let number ← Exchange.lift tmdb.spell
  let result ← db.fetch ("/" ++ shelf ++ "/" ++ number) [("append_to_response", .str "external_ids")]
  if result.truthy then
    return (← Exchange.lift (result.member "external_ids")).orElse .null
  else return .null

end TitleDatabase
end DebridCache
