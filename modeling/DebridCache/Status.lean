import DebridCache.Hash

/-!
What is known about hashes at one provider.
-/

namespace DebridCache

structure CacheStatus where
  cached : Bool
  service : String
  files : List Value
  deriving Repr, Inhabited

def CacheStatus.uncached (service : String) : CacheStatus := ⟨false, service, []⟩

/-- Statuses by normalized hash, in the order asked. -/
abbrev ResultMap := List (String × CacheStatus)

namespace ResultMap

/-- Statuses found take the place of those held; no hash is added. -/
def overlay (found results : ResultMap) : ResultMap :=
  results.map fun (h, status) => (h, (found.lookup h).getD status)

def cachedCount (results : ResultMap) : Nat := results.countP fun r => r.2.cached

/-- Whether a hash, in whatever spelling, is cached; one that was not asked for is not. -/
def isCached (results : ResultMap) (hash : Value) : Except Fault Bool := do
  let form ← Hash.normalForm hash
  return ((results.lookup form).map (·.cached)).getD false

end ResultMap

def cachedServices (results : List (String × ResultMap)) (hash : Value) :
    Except Fault (List String) := do
  let named ← results.mapM fun (name, r) => do return (name, ← r.isCached hash)
  return (named.filter (·.2)).map (·.1)

end DebridCache
