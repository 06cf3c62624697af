import DebridCache.Value
import DebridCache.Json.Encoding
import DebridCache.Text.Digits

/-!
Reading JSON documents. Three words for numbers without digits are taken besides the standard's
grammar; of members with one key the last value counts. Whole numbers have a most number of digits, and
every level of nesting takes some of the room that the stack has left.
-/

namespace DebridCache.Json

open Text (isDigit digitsValue mostDigits signed negated)

def isSpace (c : Char) : Bool := c = ' ' || c = '\t' || c = '\n' || c = '\r'

def skip (cs : List Char) : List Char := cs.dropWhile isSpace

def hexDigit? (c : Char) : Option Nat :=
  if '0' ≤ c ∧ c ≤ '9' then some (c.toNat - 48)
  else if 'a' ≤ c ∧ c ≤ 'f' then some (c.toNat - 87)
  else if 'A' ≤ c ∧ c ≤ 'F' then some (c.toNat - 55)
  else none

def escape? : Char → Option Char
  | '"' => some '"'
  | '\\' => some '\\'
  | '/' => some '/'
  | 'b' => some '\x08'
  | 'f' => some '\x0c'
  | 'n' => some '\n'
  | 'r' => some '\r'
  | 't' => some '\t'
  | _ => none

/-- The units of a string after its opening quote, and what follows the closing one. -/
def units? : List Char → Option (List Nat × List Char)
  | [] => none
  | '"' :: cs => some ([], cs)
  | '\\' :: 'u' :: a :: b :: c :: d :: cs => do
    let unit := [← hexDigit? a, ← hexDigit? b, ← hexDigit? c, ← hexDigit? d].foldl
      (fun n digit => n * 16 + digit) 0
    let (us, rest) ← units? cs
    return (unit :: us, rest)
  | '\\' :: c :: cs => do
    let e ← escape? c
    let (us, rest) ← units? cs
    return (e.toNat :: us, rest)
  | c :: cs =>
    if c.toNat < 0x20 ∨ c = '\\' then none
    else (units? cs).map fun (us, rest) => (c.toNat :: us, rest)

def string? (cs : List Char) : Option (String × List Char) :=
  (units? cs).map fun (us, rest) =>
    (String.ofList ((joinSurrogates us).map Text.Utf8.charOf), rest)

def spanDigits (cs : List Char) : List Char × List Char := cs.span isDigit

/-- The whole part: a zero alone, or digits that do not start with one. -/
def wholePart? : List Char → Option (List Char × List Char)
  | '0' :: cs => some (['0'], cs)
  | cs =>
    match spanDigits cs with
    | ([], _) => none
    | found => some found

def fraction : List Char → List Char × List Char
  | cs@('.' :: rest) =>
    match spanDigits rest with
    | ([], _) => ([], cs)
    | found => found
  | cs => ([], cs)

/-- The exponent, if a mark, perhaps a sign, and a digit are there. -/
def exponent (cs : List Char) : Option Int × List Char :=
  match cs with
  | mark :: rest =>
    if mark = 'e' ∨ mark = 'E' then
      let (negative, rest) := signed rest
      match spanDigits rest with
      | ([], _) => (none, cs)
      | (digits, rest) => (some (negated negative (digitsValue digits)), rest)
    else (none, cs)
  | [] => (none, cs)

/-- Why a text is not read: it is no document, or there is no room for its nesting. -/
inductive Refusal where
  | malformed
  | tooDeep
  deriving DecidableEq, Repr, Inhabited

def require {α : Type} : Option α → Except Refusal α
  | some a => .ok a
  | none => .error .malformed

/-- A number after its sign: a whole one unless a fraction or an exponent makes it a float. Only a whole
one can have too many digits. -/
def unsigned? (negative : Bool) (cs : List Char) : Option (Value × List Char) := do
  let (whole, cs) ← wholePart? cs
  let (places, cs) := fraction cs
  let (power, cs) := exponent cs
  if places.isEmpty && power.isNone then
    if mostDigits < whole.length then none
    else return (.int (negated negative (digitsValue whole)), cs)
  else
    return (.float (.ofDecimal negative (digitsValue (whole ++ places))
      (power.getD 0 - places.length)), cs)

def afterWord? : List Char → List Char → Option (List Char)
  | [], cs => some cs
  | w :: ws, c :: cs => if w = c then afterWord? ws cs else none
  | _ :: _, [] => none

def words : List (List Char × Value) :=
  [("null".toList, .null), ("true".toList, .bool true), ("false".toList, .bool false),
   ("NaN".toList, .float .nan), ("Infinity".toList, .float (.infinite false)),
   ("-Infinity".toList, .float (.infinite true))]

def word? (cs : List Char) : Option (Value × List Char) :=
  words.findSome? fun (w, v) => (afterWord? w cs).map fun rest => (v, rest)

def scalar? (cs : List Char) : Option (Value × List Char) :=
  match word? cs with
  | some found => some found
  | none =>
    match cs with
    | '-' :: rest => unsigned? true rest
    | _ => unsigned? false cs

mutual

/-- A value at the front. Every level uses up fuel and at least a character goes with two; what is in
brackets has one level less of the room. -/
def value : Nat → Nat → List Char → Except Refusal (Value × List Char)
  | 0, _, _ => .error .malformed
  | fuel + 1, room, cs =>
    match cs with
    | '"' :: rest => (require (string? rest)).map fun (s, rest) => (.str s, rest)
    | '[' :: rest =>
      match room with
      | 0 => .error .tooDeep
      | room + 1 =>
        match skip rest with
        | ']' :: rest => .ok (.arr [], rest)
        | rest => (items fuel room rest).map fun (vs, rest) => (.arr vs, rest)
    | '\x7b' :: rest =>
      match room with
      | 0 => .error .tooDeep
      | room + 1 =>
        match skip rest with
        | '\x7d' :: rest => .ok (.obj [], rest)
        | rest => (members fuel room rest).map fun (ms, rest) => (.ofMembers ms, rest)
    | cs => require (scalar? cs)

def items : Nat → Nat → List Char → Except Refusal (List Value × List Char)
  | 0, _, _ => .error .malformed
  | fuel + 1, room, cs =>
    match value fuel room cs with
    | .error refusal => .error refusal
    | .ok (v, rest) =>
      match skip rest with
      | ',' :: rest => (items fuel room (skip rest)).map fun (vs, rest) => (v :: vs, rest)
      | ']' :: rest => .ok ([v], rest)
      | _ => .error .malformed

def members : Nat → Nat → List Char → Except Refusal (List (String × Value) × List Char)
  | 0, _, _ => .error .malformed
  | fuel + 1, room, cs =>
    match cs with
    | '"' :: rest =>
      match string? rest with
      | none => .error .malformed
      | some (key, rest) =>
        match skip rest with
        | ':' :: rest =>
          match value fuel room (skip rest) with
          | .error refusal => .error refusal
          | .ok (v, rest) =>
            match skip rest with
            | ',' :: rest =>
              (members fuel room (skip rest)).map fun (ms, rest) => ((key, v) :: ms, rest)
            | '\x7d' :: rest => .ok ([(key, v)], rest)
            | _ => .error .malformed
        | _ => .error .malformed
    | _ => .error .malformed

end

/-- The value of a whole document: blanks may stand around it and nothing else. -/
def readText (room : Nat) (cs : List Char) : Except Refusal Value := do
  let (v, rest) ← value (2 * cs.length + 2) room (skip cs)
  if (skip rest).isEmpty then return v else throw .malformed

def read (room : Nat) (bytes : List UInt8) : Except Refusal Value := do
  readText room (← require (characters? bytes))

end DebridCache.Json
