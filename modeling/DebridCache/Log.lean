import DebridCache.Fault

/-!
Log entries.
-/

namespace DebridCache

inductive Level where
  | trace
  | debug
  | info
  | success
  | warning
  | error
  | critical
  deriving DecidableEq, Repr, Inhabited

namespace Level

/-- From the least severe to the most. -/
def all : List Level := [.trace, .debug, .info, .success, .warning, .error, .critical]

def name : Level → String
  | .trace => "TRACE"
  | .debug => "DEBUG"
  | .info => "INFO"
  | .success => "SUCCESS"
  | .warning => "WARNING"
  | .error => "ERROR"
  | .critical => "CRITICAL"

def severity : Level → Nat
  | .trace => 5
  | .debug => 10
  | .info => 20
  | .success => 25
  | .warning => 30
  | .error => 40
  | .critical => 50

end Level

structure Entry where
  level : Level
  message : String
  /-- A fault whose words stand behind the message. -/
  cause : Option Fault
  deriving DecidableEq, Repr, Inhabited

def Entry.text (words : Fault → String) (e : Entry) : String :=
  e.message ++ (e.cause.map fun f => ": " ++ words f).getD ""

end DebridCache
