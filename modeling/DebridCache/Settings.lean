import DebridCache.Account
import DebridCache.Settings.Coerce
import DebridCache.Settings.Dotenv
import DebridCache.Text.Lowercase

/-!
The settings of the program and where they come from: values given outright come before variables of
the environment, these before variables of a file, and the defaults come last.
-/

namespace DebridCache

structure Settings where
  useRealDebrid : Bool
  realDebridToken : String
  useTorbox : Bool
  torboxApiKey : String
  useAllDebrid : Bool
  allDebridApiKey : String
  allDebridAgent : String
  tmdbApiKey : String
  requestTimeout : Binary64
  realDebridBatchSize : Int
  realDebridBatchDelay : Binary64
  logLevel : String
  deriving DecidableEq, Repr, Inhabited

namespace Settings

inductive Name where
  | useRealDebrid
  | realDebridToken
  | useTorbox
  | torboxApiKey
  | useAllDebrid
  | allDebridApiKey
  | allDebridAgent
  | tmdbApiKey
  | requestTimeout
  | realDebridBatchSize
  | realDebridBatchDelay
  | logLevel
  deriving DecidableEq, Repr, Inhabited

namespace Name

/-- The name in lowercase, as values given outright may use it. -/
def plain : Name → String
  | .useRealDebrid => "use_real_debrid"
  | .realDebridToken => "real_debrid_token"
  | .useTorbox => "use_torbox"
  | .torboxApiKey => "torbox_api_key"
  | .useAllDebrid => "use_alldebrid"
  | .allDebridApiKey => "alldebrid_api_key"
  | .allDebridAgent => "alldebrid_agent"
  | .tmdbApiKey => "tmdb_api_key"
  | .requestTimeout => "request_timeout"
  | .realDebridBatchSize => "real_debrid_batch_size"
  | .realDebridBatchDelay => "real_debrid_batch_delay"
  | .logLevel => "log_level"

def envName (n : Name) : String := String.ofList (n.plain.toList.map Char.toUpper)

def isSpelled (n : Name) (name : String) : Bool :=
  String.ofList (Text.lower name.toList) = n.plain

end Name

/-- A value for a setting, with the name under which problems with it are told. -/
structure Given where
  name : String
  value : Value
  deriving Repr, Inhabited

/-- What a program finds around it: variables of the environment and the text of a file of them. -/
structure Surroundings where
  environment : List (String × String)
  file : Option String
  deriving Repr, Inhabited

structure Sources extends Surroundings where
  direct : List (String × Value)
  deriving Repr, Inhabited

def Surroundings.sources (around : Surroundings) : Sources := { around with direct := [] }

/-- The last value whose name is the setting's in any letter case. -/
def lastSpelled {α : Type} (n : Name) (table : List (String × α)) : Option α :=
  (table.reverse.find? fun entry => n.isSpelled entry.1).map (·.2)

/-- A value, or every problem met on the way to it. -/
inductive Checked (α : Type) where
  | sound (a : α)
  | flawed (problems : List (String × Problem))
  deriving Repr

namespace Checked

def problems {α : Type} : Checked α → List (String × Problem)
  | .sound _ => []
  | .flawed ps => ps

/-- Problems on both sides are told, those of the first side first. -/
def apply {α β : Type} : Checked (α → β) → Checked α → Checked β
  | .sound f, .sound a => .sound (f a)
  | f, a => .flawed (f.problems ++ a.problems)

instance : Applicative Checked where
  pure := .sound
  seq f a := apply f (a ())

end Checked

namespace Sources

/-- A value given outright: under the variable's name, else under the plain one, else in another
spelling. -/
def directly (s : Sources) (n : Name) : Option Given :=
  match s.direct.lookup n.envName with
  | some v => some ⟨n.envName, v⟩
  | none =>
    match s.direct.lookup n.plain with
    | some v => some ⟨n.plain, v⟩
    | none => (lastSpelled n s.direct).map fun v => ⟨n.envName, v⟩

def fileVariables (s : Sources) : List (String × Option String) :=
  match s.file with
  | some text => Dotenv.read s.environment text
  | none => []

def given? (s : Sources) (n : Name) : Option Given :=
  match s.directly n with
  | some g => some g
  | none =>
    match lastSpelled n s.environment with
    | some v => some ⟨n.envName, .str v⟩
    | none => ((lastSpelled n s.fileVariables).join).map fun v => ⟨n.envName, .str v⟩

def read {α : Type} (s : Sources) (n : Name) (reader : Value → Except Problem α) (default : α) :
    Checked α :=
  match s.given? n with
  | some g =>
    match reader g.value with
    | .ok a => .sound a
    | .error p => .flawed [(g.name, p)]
  | none => .sound default

end Sources

def defaults : Settings where
  useRealDebrid := false
  realDebridToken := ""
  useTorbox := false
  torboxApiKey := ""
  useAllDebrid := false
  allDebridApiKey := ""
  allDebridAgent := Account.defaultAgent
  tmdbApiKey := ""
  requestTimeout := Account.defaultTimeout
  realDebridBatchSize := Account.maxBatchSize
  realDebridBatchDelay := Account.minBatchDelay
  logLevel := "INFO"

def readBatchSize (v : Value) : Except Problem Int := do
  within 1 Account.maxBatchSize (← readInt v)

def readBatchDelay (v : Value) : Except Problem Binary64 := do
  atLeast Account.minBatchDelay (← readFloat v)

def check (s : Sources) : Checked Settings :=
  Settings.mk
    <$> s.read .useRealDebrid readBool defaults.useRealDebrid
    <*> s.read .realDebridToken readText defaults.realDebridToken
    <*> s.read .useTorbox readBool defaults.useTorbox
    <*> s.read .torboxApiKey readText defaults.torboxApiKey
    <*> s.read .useAllDebrid readBool defaults.useAllDebrid
    <*> s.read .allDebridApiKey readText defaults.allDebridApiKey
    <*> s.read .allDebridAgent readText defaults.allDebridAgent
    <*> s.read .tmdbApiKey readText defaults.tmdbApiKey
    <*> s.read .requestTimeout readFloat defaults.requestTimeout
    <*> s.read .realDebridBatchSize readBatchSize defaults.realDebridBatchSize
    <*> s.read .realDebridBatchDelay readBatchDelay defaults.realDebridBatchDelay
    <*> s.read .logLevel readText defaults.logLevel

def load (s : Sources) : Except Fault Settings :=
  match check s with
  | .sound settings => .ok settings
  | .flawed problems => .error (.invalidSettings problems)

def enabled (s : Settings) : Provider → Bool
  | .realDebrid => s.useRealDebrid
  | .torbox => s.useTorbox
  | .allDebrid => s.useAllDebrid

def credential (s : Settings) : Provider → String
  | .realDebrid => s.realDebridToken
  | .torbox => s.torboxApiKey
  | .allDebrid => s.allDebridApiKey

def has (s : Settings) (p : Provider) : Bool := Provider.isUsable (s.enabled p) (s.credential p)

end Settings

/-- The settings in force: read once, and then the same until they are cleared. -/
abbrev Snapshot := Option Settings

namespace Snapshot

/-- The settings in force, read now if there are none. What cannot be read is not kept. -/
def get (held : Snapshot) (around : Settings.Surroundings) : Snapshot × Except Fault Settings :=
  match held with
  | some s => (some s, .ok s)
  | none =>
    match Settings.load around.sources with
    | .ok s => (some s, .ok s)
    | .error f => (none, .error f)

def clear : Snapshot := none

end Snapshot
end DebridCache
