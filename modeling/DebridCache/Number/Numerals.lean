import DebridCache.Number.Shortest

/-!
How floats are written: a style of numerals says where positional digits end, how an exponent looks, and the
words for the values that have no digits.
-/

namespace DebridCache

/-- The choices of a written form of floats. -/
structure Numerals where
  /-- Exponents from here on, and below `positionalEnd`, are written without an exponent part. -/
  positionalStart : Int
  positionalEnd : Int
  /-- Written before an exponent, whose sign is always shown. -/
  mark : String
  exponentWidth : Nat
  /-- Written after a whole number, to tell it from an integer. -/
  wholeTail : String
  nan : String
  infinity : String

def Numerals.text : Numerals where
  positionalStart := -4
  positionalEnd := 16
  mark := "e"
  exponentWidth := 2
  wholeTail := ".0"
  nan := "nan"
  infinity := "inf"

/-- Floats in a JSON document differ from running text in the three words only. -/
def Numerals.json : Numerals := { Numerals.text with nan := "NaN", infinity := "Infinity" }

namespace Numerals

def digitsOf (n : Nat) : List Char := Nat.toDigits 10 n

def zeros (n : Nat) : List Char := List.replicate n '0'

def sign (negative : Bool) : List Char := if negative then ['-'] else []

/-- Digits without an exponent part; `point` counts the digits before the point and may be negative
or beyond the last digit. -/
def positional (n : Numerals) (digits : List Char) (point : Int) : List Char :=
  if point ≤ 0 then '0' :: '.' :: (zeros (-point).toNat ++ digits)
  else if (digits.length : Int) ≤ point then
    digits ++ zeros (point - digits.length).toNat ++ n.wholeTail.toList
  else digits.take point.toNat ++ '.' :: digits.drop point.toNat

def exponential (n : Numerals) (digits : List Char) (exponent : Int) : List Char :=
  let head :=
    match digits with
    | [] => []
    | [d] => [d]
    | d :: ds => d :: '.' :: ds
  let power := digitsOf exponent.natAbs
  head ++ n.mark.toList ++ (if exponent < 0 then ['-'] else ['+']) ++
    zeros (n.exponentWidth - power.length) ++ power

def magnitude (n : Numerals) (units : Nat) : List Char :=
  let d := Decimal.shortest units
  let digits := digitsOf d.digits
  let leading := d.exponent + digits.length - 1
  if n.positionalStart ≤ leading ∧ leading < n.positionalEnd then
    n.positional digits (leading + 1)
  else n.exponential digits leading

/-- The shortest text that reads back as the number. -/
def render (n : Numerals) : Binary64 → String
  | .nan => n.nan
  | .infinite negative => String.ofList (sign negative ++ n.infinity.toList)
  | .finite negative units => String.ofList (sign negative ++ n.magnitude units)

/-- The number with a fixed count of places, from its exact value; a half goes to the even
neighbour. -/
def renderFixed (n : Numerals) (places : Nat) : Binary64 → String
  | .nan => n.nan
  | .infinite negative => String.ofList (sign negative ++ n.infinity.toList)
  | .finite negative units =>
    let scaled := roundHalfEven (units * Nat.pow 10 places) Binary64.one
    let whole := digitsOf (scaled / Nat.pow 10 places)
    let rest := digitsOf (scaled % Nat.pow 10 places)
    String.ofList (sign negative ++ whole ++
      (if places = 0 then [] else '.' :: (zeros (places - rest.length) ++ rest)))

end Numerals
end DebridCache
