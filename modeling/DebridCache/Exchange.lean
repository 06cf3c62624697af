import DebridCache.Log
import DebridCache.Wire.Request

/-!
Work done over the network, as data: what is sent, how long is waited, what is logged, and how the work
goes on after each outcome. Running it against a client gives its result and its trace.
-/

namespace DebridCache

open Wire (Sent Outcome Request Response)

/-- Work that ends with a value or a fault. -/
inductive Exchange (α : Type) where
  | done (a : α)
  | fail (fault : Fault)
  | send (request : Sent) (next : Outcome → Exchange α)
  | sleep (delay : Value) (next : Exchange α)
  | note (entry : Entry) (next : Exchange α)

namespace Exchange

variable {α β : Type}

def bind : Exchange α → (α → Exchange β) → Exchange β
  | .done a, k => k a
  | .fail f, _ => .fail f
  | .send r next, k => .send r fun o => (next o).bind k
  | .sleep d next, k => .sleep d (next.bind k)
  | .note e next, k => .note e (next.bind k)

instance : Monad Exchange where
  pure := .done
  bind := bind

/-- The same work with its fault as a value. A withdrawn call stays withdrawn. -/
def attempt : Exchange α → Exchange (Except Fault α)
  | .done a => .done (.ok a)
  | .fail f => if f.isRecoverable then .done (.error f) else .fail f
  | .send r next => .send r fun o => (next o).attempt
  | .sleep d next => .sleep d next.attempt
  | .note e next => .note e next.attempt

def lift : Except Fault α → Exchange α
  | .ok a => .done a
  | .error f => .fail f

def log (level : Level) (message : String) : Exchange Unit := .note ⟨level, message, none⟩ (.done ())

def report (level : Level) (message : String) (fault : Fault) : Exchange Unit :=
  .note ⟨level, message, some fault⟩ (.done ())

def submit (r : Request) : Exchange Response :=
  match r.prepare with
  | .error f => .fail f
  | .ok sent => .send sent fun
    | .answered response => .done response
    | .failed f => .fail f

theorem bind_done (x : Exchange α) : x.bind .done = x := by
  induction x with
  | done a => rfl
  | fail f => rfl
  | send r next ih => exact congrArg (Exchange.send r) (funext ih)
  | sleep d next ih => exact congrArg (Exchange.sleep d) ih
  | note e next ih => exact congrArg (Exchange.note e) ih

theorem bind_assoc {γ : Type} (x : Exchange α) (f : α → Exchange β) (g : β → Exchange γ) :
    (x.bind f).bind g = x.bind fun a => (f a).bind g := by
  induction x with
  | done a => rfl
  | fail f => rfl
  | send r next ih => exact congrArg (Exchange.send r) (funext ih)
  | sleep d next ih => exact congrArg (Exchange.sleep d) ih
  | note e next ih => exact congrArg (Exchange.note e) ih

end Exchange

/-- The outcomes that a transport has in store, and the one that follows them for ever. -/
structure Script where
  outcomes : List Outcome
  afterwards : Outcome
  deriving Inhabited

def Script.next (s : Script) : Outcome × Script :=
  match s.outcomes with
  | [] => (s.afterwards, s)
  | o :: os => (o, { s with outcomes := os })

/-- A connection to one server; once closed it sends nothing. -/
structure Client where
  isClosed : Bool
  script : Script
  deriving Inhabited

def Client.close (c : Client) : Client := { c with isClosed := true }

/-- What a client does that can be seen from outside. -/
inductive Event where
  | sent (request : Sent)
  | slept (delay : Value)
  deriving Inhabited

structure Run (α : Type) where
  result : Except Fault α
  events : List Event
  entries : List Entry
  client : Client

namespace Run

variable {α : Type}

def addEvent (event : Event) (r : Run α) : Run α := { r with events := event :: r.events }

def addEntry (entry : Entry) (r : Run α) : Run α := { r with entries := entry :: r.entries }

end Run

/-- Runs work on a client. On a closed one every request fails unsent. -/
def Exchange.run {α : Type} (client : Client) : Exchange α → Run α
  | .done a => ⟨.ok a, [], [], client⟩
  | .fail f => ⟨.error f, [], [], client⟩
  | .send r next =>
    if client.isClosed then (next (.failed .clientClosed)).run client
    else
      let (outcome, script) := client.script.next
      ((next outcome).run { client with script }).addEvent (.sent r)
  | .sleep d next => (next.run client).addEvent (.slept d)
  | .note e next => (next.run client).addEntry e

end DebridCache
