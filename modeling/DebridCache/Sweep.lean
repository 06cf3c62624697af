import DebridCache.Registry

/-!
Asking all enabled services about the same hashes. Each works on its own client, so what one of them
does or suffers does not reach another.
-/

namespace DebridCache

abbrev SweepResults := List (String × ResultMap)

namespace Service

/-- A check whose failure is logged and counts as nothing found. -/
def tryCheck (s : Service) (provider : Provider) (hashes : Value) : Exchange ResultMap := do
  Exchange.log .debug ("Checking " ++ provider.displayName ++ " cache...")
  match ← (s.check hashes).attempt with
  | .ok results => return results
  | .error fault =>
    Exchange.report .error (provider.displayName ++ " cache check failed") fault
    return []

end Service

structure Sweep where
  result : Except Fault SweepResults
  events : List (Provider × List Event)
  entries : List Entry

namespace Registry

def runs (r : Registry) (hashes : Value) : List (Provider × Run ResultMap) :=
  r.services.map fun (p, s) => (p, (s.tryCheck p hashes).run s.client)

def noResults : SweepResults := Provider.all.map fun p => (p.key, [])

def firstFault : List (Provider × Run ResultMap) → Option Fault
  | [] => none
  | (_, run) :: rest =>
    match run.result with
    | .error f => some f
    | .ok _ => firstFault rest

def resultsOf (runs : List (Provider × Run ResultMap)) (p : Provider) : ResultMap :=
  match runs.lookup p with
  | some run => (run.result.toOption).getD []
  | none => []

def gathered (runs : List (Provider × Run ResultMap)) : SweepResults :=
  Provider.all.map fun p => (p.key, resultsOf runs p)

def summary (runs : List (Provider × Run ResultMap)) : List Entry :=
  runs.map fun (p, _) =>
    let results := resultsOf runs p
    ⟨.info, "Cache check: " ++ toString results.cachedCount ++ "/" ++ toString results.length ++
      " cached on " ++ p.displayName, none⟩

def afterRuns (r : Registry) (runs : List (Provider × Run ResultMap)) : Registry :=
  ⟨r.services.map fun (p, s) =>
    match runs.lookup p with
    | some run => (p, { s with client := run.client })
    | none => (p, s)⟩

/-- Asks every service about some hashes; no hashes ask nothing. -/
def sweep (r : Registry) (hashes : Value) : Registry × Sweep :=
  if !hashes.truthy || r.services.isEmpty then (r, ⟨.ok noResults, [], []⟩)
  else
    let runs := r.runs hashes
    let events := runs.map fun (p, run) => (p, run.events)
    let entries := runs.flatMap fun (_, run) => run.entries
    match firstFault runs with
    | some f => (r.afterRuns runs, ⟨.error f, events, entries⟩)
    | none => (r.afterRuns runs, ⟨.ok (gathered runs), events, entries ++ summary runs⟩)

end Registry

inductive RegistryOperation where
  | sweep (hashes : Value)
  | cachedProviders (hash : Value)
  | isCached (provider hash : Value)
  | status
  | get (provider : Value)
  | isEnabled (provider : Value)
  | close
  /-- Enters and leaves a scope, which closes every client. -/
  | scope
  deriving Repr, Inhabited

structure RegistrySession where
  registry : Registry
  last : SweepResults

inductive RegistryReply where
  | nothing
  | swept (results : SweepResults)
  | keys (keys : List String)
  | truth (b : Bool)
  | provider (p : Option Provider)
  | status (registry : Registry)

structure RegistryReport where
  result : Except Fault RegistryReply
  events : List (Provider × List Event)
  entries : List Entry

namespace RegistrySession

def answer (s : RegistrySession) (result : Except Fault RegistryReply) :
    RegistrySession × RegistryReport := (s, ⟨result, [], []⟩)

def lastOf (s : RegistrySession) : Value → ResultMap
  | .str key => (s.last.lookup key).getD []
  | _ => []

def afterSweep (s : RegistrySession) (registry : Registry) (swept : Sweep) : RegistrySession :=
  ⟨registry, swept.result.toOption.getD s.last⟩

def close (s : RegistrySession) : RegistrySession := { s with registry := s.registry.close }

/-- A scope around some work. However the work ends, every client is closed after it, and its end is the
scope's: a fault goes on to the caller. -/
def within {β : Type} (s : RegistrySession) (body : RegistrySession → RegistrySession × β) :
    RegistrySession × β :=
  let (s, ended) := body s
  (s.close, ended)

def perform (s : RegistrySession) : RegistryOperation → RegistrySession × RegistryReport
  | .sweep hashes =>
    let (registry, swept) := s.registry.sweep hashes
    (s.afterSweep registry swept, ⟨swept.result.map .swept, swept.events, swept.entries⟩)
  | .cachedProviders hash => s.answer ((cachedServices s.last hash).map .keys)
  | .isCached provider hash => s.answer (((s.lastOf provider).isCached hash).map .truth)
  | .status => s.answer (.ok (.status s.registry))
  | .get provider => s.answer (.ok (.provider (s.registry.find? provider)))
  | .isEnabled provider => s.answer (.ok (.truth (s.registry.find? provider).isSome))
  | .close => s.close.answer (.ok .nothing)
  | .scope => s.within fun s => s.answer (.ok (.truth true))

def performAll (s : RegistrySession) :
    List RegistryOperation → RegistrySession × List RegistryReport
  | [] => (s, [])
  | o :: os =>
    let (s, report) := s.perform o
    let (s, reports) := s.performAll os
    (s, report :: reports)

end RegistrySession
end DebridCache
