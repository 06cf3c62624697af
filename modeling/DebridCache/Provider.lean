import DebridCache.Value
import DebridCache.Wire.Address

/-!
The providers.
-/

namespace DebridCache

inductive Provider where
  | realDebrid
  | torbox
  | allDebrid
  deriving DecidableEq, Repr, Inhabited

namespace Provider

/-- In the order in which they are asked and listed. -/
def all : List Provider := [.realDebrid, .torbox, .allDebrid]

def key : Provider → String
  | .realDebrid => "realdebrid"
  | .torbox => "torbox"
  | .allDebrid => "alldebrid"

def displayName : Provider → String
  | .realDebrid => "Real-Debrid"
  | .torbox => "Torbox"
  | .allDebrid => "AllDebrid"

def serviceName : Provider → String
  | .realDebrid => "RealDebridService"
  | .torbox => "TorboxService"
  | .allDebrid => "AllDebridService"

def ofKey? (key : String) : Option Provider := all.find? (·.key = key)

def unnamed (v : Value) : Fault :=
  .unknownName (String.ofList v.quoted ++ " is not a valid DebridProvider")

def named (v : Value) : Except Fault Provider :=
  match v with
  | .str s =>
    match ofKey? s with
    | some p => .ok p
    | none => .error (unnamed v)
  | _ => .error (unnamed v)

def site : Provider → Wire.Site
  | .realDebrid => ⟨"https://api.real-debrid.com", "/rest/1.0", rfl⟩
  | .torbox => ⟨"https://api.torbox.app", "/v1/api", rfl⟩
  | .allDebrid => ⟨"https://api.alldebrid.com", "/v4", rfl⟩

/-- A credential of no more characters than this is a placeholder. -/
def placeholderLength : Nat := 5

def isUsable (enabled : Bool) (credential : String) : Bool :=
  enabled && placeholderLength < credential.length

/-- A provider's switch and credential, not yet known to be of the right kinds. -/
structure Config where
  enabled : Value
  credential : Value
  deriving Repr, Inhabited

def Config.initial : Config := ⟨.bool false, .str ""⟩

/-- Whether the provider can be used: a switch that is off answers with itself. -/
def Config.usable (c : Config) : Except Fault Value :=
  if c.enabled.truthy then
    if c.credential.truthy then do
      return .bool (placeholderLength < (← c.credential.size))
    else .ok (.bool false)
  else .ok c.enabled

end Provider
end DebridCache
