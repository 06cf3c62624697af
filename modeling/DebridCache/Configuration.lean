import DebridCache.Registry

/-!
The configuration as a program uses it over time. Whatever does not bring settings of its own goes by
the settings in force, which are read once and stay until they are cleared.
-/

namespace DebridCache

/-- What is asked of the configuration, with what is around the program at that moment. -/
inductive ConfigurationOperation where
  /-- Settings from given sources; those in force are neither read nor changed. -/
  | make (sources : Settings.Sources)
  | settings (around : Settings.Surroundings)
  | accounts (around : Settings.Surroundings)
  | titleDatabase (around : Settings.Surroundings)
  | clear
  deriving Repr, Inhabited

inductive ConfigurationReply where
  | nothing
  | settings (s : Settings)
  | accounts (accounts : List (Provider × Account))
  | titleDatabase (database : TitleDatabase)
  deriving Repr, Inhabited

namespace Snapshot

def answer (held : Snapshot) (around : Settings.Surroundings)
    (reply : Settings → Except Fault ConfigurationReply) :
    Snapshot × Except Fault ConfigurationReply :=
  let (held, settings) := held.get around
  (held, settings.bind reply)

def perform (held : Snapshot) :
    ConfigurationOperation → Snapshot × Except Fault ConfigurationReply
  | .make sources => (held, (Settings.load sources).map .settings)
  | .settings around => held.answer around fun s => .ok (.settings s)
  | .accounts around => held.answer around fun s => s.accounts.map .accounts
  | .titleDatabase around => held.answer around fun s => .ok (.titleDatabase s.titleDatabase)
  | .clear => (clear, .ok .nothing)

/-- Performs operations in turn; one that fails does not stop the next. -/
def performAll (held : Snapshot) :
    List ConfigurationOperation → Snapshot × List (Except Fault ConfigurationReply)
  | [] => (held, [])
  | o :: os =>
    let (held, reply) := held.perform o
    let (held, replies) := held.performAll os
    (held, reply :: replies)

end Snapshot
end DebridCache
