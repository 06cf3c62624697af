import DebridCache.Value
import DebridCache.Value.Text

/-!
Writing JSON documents: the compact form that requests carry, and the spaced form in ASCII.
-/

namespace DebridCache.Json

structure Style where
  betweenItems : String
  afterKey : String
  /-- Whether characters beyond printable ASCII are escaped. -/
  escapesBeyondAscii : Bool

def Style.compact : Style := ⟨",", ":", false⟩

def Style.spaced : Style := ⟨", ", ": ", true⟩

def escapedUnit (unit : Nat) : List Char := '\\' :: 'u' :: Value.hex 4 unit

/-- A code point as one escape, or as two for one beyond sixteen bits. -/
def escapedPoint (point : Nat) : List Char :=
  if point < 0x10000 then escapedUnit point
  else
    escapedUnit (0xD800 + (point - 0x10000) / 0x400) ++
      escapedUnit (0xDC00 + (point - 0x10000) % 0x400)

def Style.char (style : Style) (c : Char) : List Char :=
  if c = '"' then ['\\', '"']
  else if c = '\\' then ['\\', '\\']
  else if c = '\n' then ['\\', 'n']
  else if c = '\r' then ['\\', 'r']
  else if c = '\t' then ['\\', 't']
  else if c = '\x08' then ['\\', 'b']
  else if c = '\x0c' then ['\\', 'f']
  else if c.toNat < 0x20 then escapedUnit c.toNat
  else if style.escapesBeyondAscii ∧ 0x7F ≤ c.toNat then escapedPoint c.toNat
  else [c]

def Style.string (style : Style) (s : String) : List Char :=
  '"' :: (s.toList.flatMap style.char ++ ['"'])

mutual

def Style.value (style : Style) : Value → List Char
  | .null => "null".toList
  | .bool true => "true".toList
  | .bool false => "false".toList
  | .int n => (toString n).toList
  | .float x => (Numerals.json.render x).toList
  | .str s => style.string s
  | .arr [] => ['[', ']']
  | .arr (v :: vs) => '[' :: (style.value v ++ style.items vs)
  | .obj [] => ['\x7b', '\x7d']
  | .obj ((k, v) :: rest) =>
    '\x7b' :: (style.string k ++ style.afterKey.toList ++ style.value v ++ style.members rest)

def Style.items (style : Style) : List Value → List Char
  | [] => [']']
  | v :: vs => style.betweenItems.toList ++ (style.value v ++ style.items vs)

def Style.members (style : Style) : List (String × Value) → List Char
  | [] => ['\x7d']
  | (k, v) :: rest =>
    style.betweenItems.toList ++ (style.string k ++ style.afterKey.toList ++
      style.value v ++ style.members rest)

end

def write (style : Style) (v : Value) : String := String.ofList (style.value v)

end DebridCache.Json
