import DebridCache.Text.Blank
import DebridCache.Text.Digits
import DebridCache.Value

/-!
Reading the values of settings. Besides a value of the wanted type, values and texts that say the same
are taken; what is refused is refused for a stated reason.
-/

namespace DebridCache.Settings

open Text (isDigit digitsValue signed negated)

def lowerAscii (cs : List Char) : List Char := cs.map Char.toLower

/-- Texts for yes and no, in any letter case and without blanks around them. -/
def yesTexts : List String := ["1", "on", "t", "true", "y", "yes"]

def noTexts : List String := ["0", "off", "f", "false", "n", "no"]

def boolOfText (s : String) : Except Problem Bool :=
  let text := String.ofList (lowerAscii s.toList)
  if text ∈ yesTexts then .ok true
  else if text ∈ noTexts then .ok false
  else .error .boolText

def boolOfInt (n : Int) : Except Problem Bool :=
  if n = 0 then .ok false else if n = 1 then .ok true else .error .boolText

/-- The floats from which whole numbers are taken lie strictly between -2^63 and 2^63. -/
def intOfFloat (x : Binary64) : Except Problem Int :=
  if !x.isFinite then .error .notFinite
  else
    match x.toInt? with
    | some n => if n.natAbs < Nat.pow 2 63 then .ok n else .error .intRange
    | none => .error .intFraction

def readBool : Value → Except Problem Bool
  | .bool b => .ok b
  | .int n => boolOfInt n
  | .float x =>
    match intOfFloat x with
    | .ok n => boolOfInt n
    | .error _ => .error .boolKind
  | .str s => boolOfText s
  | _ => .error .boolKind

/-- Blanks around a numeral; the four separators before the space are not among them. -/
def isNumeralBlank (c : Char) : Bool := Text.isBlank c && !(28 ≤ c.toNat && c.toNat ≤ 31)

def trim (cs : List Char) : List Char :=
  ((cs.dropWhile isNumeralBlank).reverse.dropWhile isNumeralBlank).reverse

def digitRun : List Char → List Char × List Char
  | d :: '_' :: e :: rest =>
    if isDigit d then
      if isDigit e then
        let (ds, rest) := digitRun (e :: rest)
        (d :: ds, rest)
      else ([d], '_' :: e :: rest)
    else ([], d :: '_' :: e :: rest)
  | d :: rest =>
    if isDigit d then
      let (ds, rest) := digitRun rest
      (d :: ds, rest)
    else ([], d :: rest)
  | [] => ([], [])

def intOfText (s : String) : Except Problem Int :=
  let (negative, cs) := signed (trim s.toList)
  match digitRun cs with
  | ([], _) => .error .intText
  | (digits, []) => .ok (negated negative (digitsValue digits))
  | (digits, '.' :: zeros) =>
    if zeros ≠ [] ∧ zeros.all (· = '0') then .ok (negated negative (digitsValue digits))
    else .error .intText
  | _ => .error .intText

def readInt : Value → Except Problem Int
  | .bool b => .ok (if b then 1 else 0)
  | .int n => .ok n
  | .float x => intOfFloat x
  | .str s => intOfText s
  | _ => .error .intKind

def fractionRun : List Char → Bool × List Char × List Char
  | '.' :: rest =>
    let (ds, rest) := digitRun rest
    (true, ds, rest)
  | cs => (false, [], cs)

def exponentRun : List Char → Option Int
  | [] => some 0
  | mark :: rest =>
    if mark = 'e' ∨ mark = 'E' then
      let (negative, rest) := signed rest
      match digitRun rest with
      | ([], _) => none
      | (digits, []) => some (negated negative (digitsValue digits))
      | _ => none
    else none

/-- A decimal numeral without its sign: digits on either side of the point suffice. -/
def decimal? (negative : Bool) (cs : List Char) : Option Binary64 :=
  let (whole, cs) := digitRun cs
  let (_, places, cs) := fractionRun cs
  if whole.isEmpty && places.isEmpty then none
  else
    (exponentRun cs).map fun power =>
      .ofDecimal negative (digitsValue (whole ++ places)) (power - places.length)

def floatOfText (s : String) : Except Problem Binary64 :=
  let (negative, cs) := signed (trim s.toList)
  let word := String.ofList (lowerAscii cs)
  if word = "nan" then .ok .nan
  else if word = "inf" ∨ word = "infinity" then .ok (.infinite negative)
  else
    match decimal? negative cs with
    | some x => .ok x
    | none => .error .floatText

def readFloat : Value → Except Problem Binary64
  | .float x => .ok x
  | .str s => floatOfText s
  | v =>
    match v.whole? with
    | some n =>
      match Binary64.ofInt? n with
      | some x => .ok x
      | none => .error .floatKind
    | none => .error .floatKind

def readText : Value → Except Problem String
  | .str s => .ok s
  | _ => .error .textKind

def within (least greatest : Int) (n : Int) : Except Problem Int :=
  if n < least then .error .tooSmall else if greatest < n then .error .tooLarge else .ok n

/-- A number that is not below a bound; one that is not a number is. -/
def atLeast (least x : Binary64) : Except Problem Binary64 :=
  if least.place.lt x.place || least.place.eq x.place then .ok x else .error .tooSmall

end DebridCache.Settings
