import DebridCache.Log
import DebridCache.Value

/-!
Where log entries are written: one line of text each, from a chosen level on.
-/

namespace DebridCache

/-- The capitals of a character, as far as they are plain letters: some letters have them without being
plain themselves. -/
def capitals (c : Char) : List Char :=
  if c = 'ß' then ['S', 'S']
  else if c = 'ı' then ['I']
  else if c = 'ſ' then ['S']
  else if c = 'ﬀ' then ['F', 'F']
  else if c = 'ﬁ' then ['F', 'I']
  else if c = 'ﬂ' then ['F', 'L']
  else if c = 'ﬃ' then ['F', 'F', 'I']
  else if c = 'ﬄ' then ['F', 'F', 'L']
  else if c = 'ﬅ' then ['S', 'T']
  else if c = 'ﬆ' then ['S', 'T']
  else [c.toUpper]

def Level.named : Value → Except Fault Level
  | .str s =>
    let name := String.ofList (s.toList.flatMap capitals)
    match Level.all.find? (·.name = name) with
    | some l => .ok l
    | none => .error (.unknownName ("Level '" ++ name ++ "' does not exist"))
  | v => .error (.noMember v.kindName "upper")

structure Origin where
  module : String
  function : String
  line : Nat
  deriving DecidableEq, Repr, Inhabited

/-- A place that writes entries of a level or a more severe one. -/
structure Sink where
  level : Level
  deriving DecidableEq, Repr, Inhabited

namespace Sink

def levelWidth : Nat := 8

def padded (s : String) : String :=
  s ++ String.ofList (List.replicate (levelWidth - s.length) ' ')

def render (words : Fault → String) (time : String) (origin : Origin) (e : Entry) : String :=
  time ++ " | " ++ padded e.level.name ++ " | " ++ origin.module ++ ":" ++ origin.function ++ ":" ++
    toString origin.line ++ " - " ++ e.text words ++ "\n"

def accepts (s : Sink) (e : Entry) : Bool := s.level.severity ≤ e.level.severity

def write (s : Sink) (words : Fault → String) (time : String) (origin : Origin)
    (entries : List Entry) : String :=
  String.join ((entries.filter s.accepts).map (render words time origin))

/-- The sink that replaces all others: at a level asked for, else at the level of the settings. -/
def setUp (level : Value) (settings : Except Fault String) : Except Fault Sink := do
  let name ←
    match level with
    | .null => do pure (.str (← settings))
    | v => pure v
  return ⟨← Level.named name⟩

end Sink
end DebridCache
