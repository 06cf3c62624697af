import DebridCache.Action
import DebridCache.Availability.Check

/-!
An account together with its client, and the operations that a user does with them one after another.
-/

namespace DebridCache

inductive Operation where
  | check (hashes : Value)
  | act (action : Action)
  | inspect
  | assign (which : Account.Attribute) (v : Value)
  | close
  /-- A call of what an account does not have. -/
  | unsupported (member : String)
  /-- Operations inside a scope, which closes the client when it is left. -/
  | scope (inner : List Operation)
  deriving Inhabited

structure Session where
  account : Account
  client : Client
  deriving Inhabited

inductive Reply where
  | nothing
  | value (v : Value)
  | statuses (results : ResultMap)
  | account (account : Account) (isClosed : Bool)
  deriving Inhabited

inductive Report where
  | single (result : Except Fault Reply) (events : List Event) (entries : List Entry)
  | scope (inner : List Report)

namespace Session

def work {α : Type} (s : Session) (x : Exchange α) (reply : α → Reply) : Session × Report :=
  let r := x.run s.client
  ({ s with client := r.client }, .single (r.result.map reply) r.events r.entries)

def close (s : Session) : Session := { s with client := s.client.close }

/-- A scope around some work. However the work ends, the client is closed after it, and its end is the
scope's: a fault goes on to the caller. -/
def within {β : Type} (s : Session) (body : Session → Session × β) : Session × β :=
  let (s, ended) := body s
  (s.close, ended)

mutual

def perform (s : Session) : Operation → Session × Report
  | .check hashes => s.work (s.account.check hashes) .statuses
  | .act action => s.work (s.account.act action) .value
  | .inspect => (s, .single (.ok (.account s.account s.client.isClosed)) [] [])
  | .assign which v =>
    ({ s with account := s.account.assign v which }, .single (.ok .nothing) [] [])
  | .close => (s.close, .single (.ok .nothing) [] [])
  | .unsupported member => (s, .single (.error (.noMember s.account.provider.serviceName member)) [] [])
  | .scope inner =>
    let (s, reports) := s.within fun s => performAll s inner
    (s, .scope reports)

/-- Performs operations in turn; one that fails does not stop the next. -/
def performAll (s : Session) : List Operation → Session × List Report
  | [] => (s, [])
  | o :: os =>
    let (s, report) := perform s o
    let (s, reports) := performAll s os
    (s, report :: reports)

end

end Session
end DebridCache
