import DebridCache.Account
import DebridCache.Availability.Answer
import DebridCache.Batch

/-!
Asking one provider which hashes it has cached. Every hash asked for is in the results; a batch that
fails leaves its hashes uncached and the later batches are still asked.
-/

namespace DebridCache.Account

open Availability (Reading)

def magnetList (batch : List String) : String :=
  String.intercalate "|" (batch.map fun h => Hash.magnet (.str h))

def question (a : Account) (batch : List String) : Wire.Request :=
  match a.provider with
  | .realDebrid =>
    a.request .get ("/torrents/instantAvailability/" ++ String.intercalate "/" batch) .nothing
  | .torbox =>
    a.request .post "/torrents/checkcached" (.json (.obj
      [("hashes", .arr (batch.map .str)), ("format", .str "object"), ("list_files", .bool true)]))
  | .allDebrid =>
    a.request .post "/magnet/instant" (.form [("magnets[]", .str (magnetList batch))])

/-- The document of a response to a request, which must be a success. -/
def documentOf (request : Wire.Request) (r : Wire.Response) : Except Fault Value :=
  if r.isSuccess then r.document else .error (.rejected r.status request.url)

def askBatch (a : Account) (batch : List String) : Exchange ResultMap := do
  let response ← Exchange.submit (a.question batch)
  let answer ← Exchange.lift (documentOf (a.question batch) response)
  match ← Exchange.lift (Availability.read a.provider batch answer) with
  | .found statuses => return statuses
  | .refused reason =>
    Exchange.log .warning (a.name ++ " cache check unsuccessful: " ++ reason)
    return []

/-- How a failed batch is logged: a bad status by its number alone, any other fault in its own words. -/
def failureEntry (name : String) : Fault → Entry
  | .rejected status _ => ⟨.error, name ++ " cache check failed: " ++ toString status, none⟩
  | f => ⟨.error, name ++ " cache check error", some f⟩

/-- Asks about a batch and adds what is found to the results; a failure is logged and adds nothing. -/
def tryBatch (a : Account) (results : ResultMap) (batch : List String) : Exchange ResultMap := do
  match ← (a.askBatch batch).attempt with
  | .ok found => return ResultMap.overlay found results
  | .error fault =>
    .note (failureEntry a.name fault) (.done results)

def sizeFor (a : Account) (count : Nat) : Value := a.batchSize.orElse (.int count)

def checkHashes (a : Account) (hashes : List String) : Exchange ResultMap := do
  let start := hashes.map fun h => (h, CacheStatus.uncached a.name)
  let feed := Batch.feed (Batch.split hashes (a.sizeFor hashes.length)) a.batchDelay
  let results ← feed.consume a.tryBatch start
  Exchange.log .debug (a.name ++ ": " ++ toString results.cachedCount ++ "/" ++
    toString hashes.length ++ " torrents cached")
  return results

def check (a : Account) (input : Value) : Exchange ResultMap := do
  match ← Exchange.lift (Hash.unique input) with
  | [] => return []
  | hashes => a.checkHashes hashes

end DebridCache.Account
