import DebridCache.Exchange
import DebridCache.Provider
import DebridCache.Value.Text

/-!
Accounts at a provider: the credential and the limits under which its server is asked.
-/

namespace DebridCache

structure Account.Options where
  credential : Value
  timeout : Value
  batchSize : Value
  batchDelay : Value
  agent : Value
  deriving Repr, Inhabited

/-- An account. Its attributes can be assigned any value later on. -/
structure Account where
  provider : Provider
  credential : Value
  timeout : Value
  /-- The most hashes in one request; what counts as false sends all in one. -/
  batchSize : Value
  /-- The least time between two requests of one check. -/
  batchDelay : Value
  /-- The name under which a client introduces itself, where that is asked for. -/
  agent : Value
  deriving Repr, Inhabited

namespace Account

/-- The most hashes that Real-Debrid takes in one request. -/
def maxBatchSize : Int := 40

/-- The least delay, in seconds, between two requests to Real-Debrid. -/
def minBatchDelay : Binary64 := .half

def defaultTimeout : Binary64 := .ofNat 10

def defaultAgent : String := "debridhub"

def Options.initial (credential : Value) : Options where
  credential := credential
  timeout := .float defaultTimeout
  batchSize := .int maxBatchSize
  batchDelay := .float minBatchDelay
  agent := .str defaultAgent

/-- An account with the limits that its provider has. Real-Debrid's can be chosen, but no looser than
they are; the other two take every hash in one request. -/
def create (provider : Provider) (o : Options) : Except Fault Account :=
  match provider with
  | .realDebrid => do
    let batchSize ← Value.greatest (.int 1) (← o.batchSize.least (.int maxBatchSize))
    let batchDelay ← o.batchDelay.greatest (.float minBatchDelay)
    return ⟨.realDebrid, o.credential, o.timeout, batchSize, batchDelay, .null⟩
  | .torbox => .ok ⟨.torbox, o.credential, o.timeout, .null, .float (.ofNat 0), .null⟩
  | .allDebrid => .ok ⟨.allDebrid, o.credential, o.timeout, .null, .float (.ofNat 0), o.agent⟩

def name (a : Account) : String := a.provider.displayName

/-- The credential as a header, except at AllDebrid. -/
def authorization (a : Account) : Option String :=
  match a.provider with
  | .allDebrid => none
  | _ => some ("Bearer " ++ a.credential.text)

/-- The credential as query fields, which only AllDebrid reads. -/
def queryFields (a : Account) : Wire.Fields :=
  match a.provider with
  | .allDebrid => [("agent", a.agent), ("apikey", a.credential)]
  | _ => []

/-- A request in this account's name. Where there are query fields they replace the endpoint's own
query. -/
def request (a : Account) (method : Wire.Method) (endpoint : String) (payload : Wire.Payload) :
    Wire.Request where
  method := method
  site := a.provider.site
  endpoint := endpoint
  authorization := a.authorization
  query := if a.queryFields.isEmpty then none else some a.queryFields
  timeout := a.timeout
  payload := payload

inductive Attribute where
  | credential
  | timeout
  | batchSize
  | batchDelay
  | agent
  deriving DecidableEq, Repr

def assign (a : Account) (v : Value) : Attribute → Account
  | .credential => { a with credential := v }
  | .timeout => { a with timeout := v }
  | .batchSize => { a with batchSize := v }
  | .batchDelay => { a with batchDelay := v }
  | .agent => { a with agent := v }

end Account
end DebridCache
