import DebridCache.Value
import DebridCache.Number.Numerals
import DebridCache.Text.Digits
import DebridCache.Text.Printable

/-!
Values as running text, the way they appear in messages and addresses: a string stands bare by itself
and quoted inside a list or an object.
-/

namespace DebridCache.Value

/-- The words for the values that have no digits, and the quotes tried in turn. -/
structure Wording where
  null : String
  yes : String
  no : String
  usualQuote : Char
  otherQuote : Char

def wording : Wording where
  null := "None"
  yes := "True"
  no := "False"
  usualQuote := '\''
  otherQuote := '"'

def hex (width n : Nat) : List Char :=
  let digits := Nat.toDigits 16 n
  List.replicate (width - digits.length) '0' ++ digits

/-- One character between quotes: the quote, the backslash and what has no glyph are escaped. -/
def quotedChar (quote c : Char) : List Char :=
  if c = quote ∨ c = '\\' then ['\\', c]
  else if c = '\n' then ['\\', 'n']
  else if c = '\r' then ['\\', 'r']
  else if c = '\t' then ['\\', 't']
  else if Text.isPrintable c then [c]
  else if c.toNat < 0x100 then '\\' :: 'x' :: hex 2 c.toNat
  else if c.toNat < 0x10000 then '\\' :: 'u' :: hex 4 c.toNat
  else '\\' :: 'U' :: hex 8 c.toNat

def quoteFor (cs : List Char) : Char :=
  if cs.contains wording.usualQuote && !cs.contains wording.otherQuote then wording.otherQuote
  else wording.usualQuote

def quotedString (s : String) : List Char :=
  let quote := quoteFor s.toList
  quote :: (s.toList.flatMap (quotedChar quote) ++ [quote])

mutual

def quoted : Value → List Char
  | .null => wording.null.toList
  | .bool b => (if b then wording.yes else wording.no).toList
  | .int n => (toString n).toList
  | .float x => (Numerals.text.render x).toList
  | .str s => quotedString s
  | .arr [] => ['[', ']']
  | .arr (v :: vs) => '[' :: (v.quoted ++ quotedItems vs)
  | .obj [] => ['\x7b', '\x7d']
  | .obj ((k, v) :: rest) =>
    '\x7b' :: (quotedString k ++ [':', ' '] ++ v.quoted ++ quotedMembers rest)

def quotedItems : List Value → List Char
  | [] => [']']
  | v :: vs => ',' :: ' ' :: (v.quoted ++ quotedItems vs)

def quotedMembers : List (String × Value) → List Char
  | [] => ['\x7d']
  | (k, v) :: rest => ',' :: ' ' :: (quotedString k ++ [':', ' '] ++ v.quoted ++ quotedMembers rest)

end

def text : Value → String
  | .str s => s
  | v => String.ofList v.quoted

mutual

/-- Every whole number in the value can be written. -/
def isBrief : Value → Bool
  | .int n => Text.isBrief n
  | .arr items => areBrief items
  | .obj members => haveBrief members
  | _ => true

def areBrief : List Value → Bool
  | [] => true
  | v :: vs => v.isBrief && areBrief vs

def haveBrief : List (String × Value) → Bool
  | [] => true
  | (_, v) :: rest => v.isBrief && haveBrief rest

end

/-- The text of a value from outside, in which a number may be too long to be written. -/
def spell (v : Value) : Except Fault String := if v.isBrief then .ok v.text else .error .longNumber

end DebridCache.Value
