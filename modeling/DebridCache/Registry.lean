import DebridCache.Availability.Check
import DebridCache.Settings
import DebridCache.Title.Database

/-!
The services that a configuration switches on, each with an account and a client of its own.
-/

namespace DebridCache

/-- A provider's account with its client, and the way in which hashes are checked there. -/
structure Service where
  account : Account
  client : Client
  check : Value → Exchange ResultMap

namespace Service

def ofAccount (account : Account) (client : Client) : Service := ⟨account, client, account.check⟩

def failing (s : Service) (fault : Fault) : Service := { s with check := fun _ => .fail fault }

def close (s : Service) : Service := { s with client := s.client.close }

end Service

/-- Services by provider, in the order of the providers. -/
structure Registry where
  services : List (Provider × Service)

namespace Settings

def account (s : Settings) (p : Provider) : Except Fault Account :=
  Account.create p {
    credential := .str (s.credential p)
    timeout := .float s.requestTimeout
    batchSize := .int s.realDebridBatchSize
    batchDelay := .float s.realDebridBatchDelay
    agent := .str s.allDebridAgent }

def titleDatabase (s : Settings) : TitleDatabase := ⟨.str s.tmdbApiKey, .float s.requestTimeout⟩

def accounts (s : Settings) : Except Fault (List (Provider × Account)) :=
  (Provider.all.filter s.has).mapM fun p => do return (p, ← s.account p)

end Settings

namespace Registry

def buildEntries (enabled : List Provider) : List Entry :=
  if enabled.isEmpty then [⟨.info, "No debrid service enabled - P2P mode only", none⟩]
  else enabled.map fun p => ⟨.info, p.displayName ++ " enabled", none⟩

def build (s : Settings) (client : Provider → Client) : Except Fault (Registry × List Entry) := do
  let accounts ← s.accounts
  return (⟨accounts.map fun (p, a) => (p, .ofAccount a (client p))⟩,
    buildEntries (accounts.map (·.1)))

def configured (_ : Registry) : List Provider := Provider.all

def get? (r : Registry) (p : Provider) : Option Service := r.services.lookup p

def isEnabled (r : Registry) (p : Provider) : Bool := (r.get? p).isSome

def enabled (r : Registry) : List Provider := Provider.all.filter r.isEnabled

/-- The provider that a key names, if its service is here. Whatever is no key names none. -/
def find? (r : Registry) (key : Value) : Option Provider :=
  match key with
  | .str s => (Provider.ofKey? s).filter r.isEnabled
  | _ => none

def close (r : Registry) : Registry := ⟨r.services.map fun (p, s) => (p, s.close)⟩

end Registry
end DebridCache
