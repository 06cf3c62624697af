import DebridCache.Provider
import DebridCache.Status

/-!
What providers answer when asked which hashes they have cached. Each reads its own form of answer: an
object by hash, an object of the cached ones only, or a list in the order asked.
-/

namespace DebridCache.Availability

inductive Reading where
  | found (statuses : ResultMap)
  | refused (reason : String)
  deriving Repr, Inhabited

def filesOf (v : Value) : Except Fault (List Value) := if v.truthy then v.elements else .ok []

/-- Real-Debrid lists the cached variants of a hash; any variant is enough. -/
def variants (answer : Value) (hash : String) : List Value :=
  match (answer.memberOrNull hash).memberOrNull "rd" with
  | .arr items => items
  | _ => []

def readVariants (service : String) (batch : List String) (answer : Value) : Reading :=
  .found (batch.map fun h =>
    let files := variants answer h
    (h, ⟨!files.isEmpty, service, files⟩))

def entryOf? (members : List (String × Value)) (hash : String) : Option Value :=
  (members.reverse.find? fun m => String.ofList (Text.lower m.1.toList) = hash).map (·.2)

/-- Torbox names only what it has cached, so being named is enough. -/
def statusOfEntry (service : String) : Option Value → Except Fault CacheStatus
  | none => .ok (.uncached service)
  | some entry => do return ⟨true, service, ← filesOf (entry.memberOrNull "files")⟩

def readMembers (service : String) (batch : List String) (answer : Value) :
    Except Fault Reading := do
  let success ← answer.member "success"
  match success.truthy, answer.memberOrNull "data" with
  | true, .obj members =>
    return .found (← batch.mapM fun h => do
      return (h, ← statusOfEntry service (entryOf? members h)))
  | _, _ =>
    return .refused ((answer.memberOrNull "error").orElse (answer.memberOrNull "detail")).text

/-- Only the value true marks an entry as cached. -/
def isInstant : Value → Bool
  | .bool b => b
  | _ => false

/-- The status that an AllDebrid entry gives; its files are kept also when it is not cached. -/
def statusOfMagnet (service : String) (entry : Value) : Except Fault CacheStatus :=
  match entry with
  | .obj _ => do
    return ⟨isInstant (entry.memberOrNull "instant"), service,
      ← filesOf (entry.memberOrNull "files")⟩
  | _ => .ok (.uncached service)

def refusal (answer : Value) : String :=
  let error := answer.memberOrNull "error"
  let reason :=
    match error with
    | .obj _ => (error.memberOrNull "message").orElse (error.memberOrNull "code")
    | _ => (answer.memberOrNull "detail").orElse error
  (reason.orElse (.str "Unknown")).text

/-- AllDebrid's entries belong to the hashes at the same places. -/
def readMagnets (service : String) (batch : List String) (answer : Value) :
    Except Fault Reading := do
  match ← answer.member "status" with
  | .str "success" =>
    let data := answer.memberOrNull "data"
    let magnets ← if data.truthy then data.member "magnets" else pure .null
    let entries ← filesOf magnets
    return .found (← (batch.zip entries).mapM fun (h, entry) => do
      return (h, ← statusOfMagnet service entry))
  | _ => return .refused (refusal answer)

def read (provider : Provider) (batch : List String) (answer : Value) : Except Fault Reading :=
  match provider with
  | .realDebrid => .ok (readVariants provider.displayName batch answer)
  | .torbox => readMembers provider.displayName batch answer
  | .allDebrid => readMagnets provider.displayName batch answer

end DebridCache.Availability
