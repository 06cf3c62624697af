/-!
Binary64 numbers held exactly. Every finite one is a whole number of units of 2^-1074, the least
positive value, so comparing, reading and printing are arithmetic on whole numbers.
-/

namespace DebridCache

/-- The quotient nearest to `num / den`; a tie goes to the even one. -/
def roundHalfEven (num den : Nat) : Nat :=
  let q := num / den
  let r := num % den
  if 2 * r < den then q
  else if den < 2 * r then q + 1
  else if q % 2 = 0 then q else q + 1

/-- A binary64 number; a finite one is `units` times 2^-1074, with a sign that zero has too. -/
inductive Binary64 where
  | nan
  | infinite (negative : Bool)
  | finite (negative : Bool) (units : Nat)
  deriving DecidableEq, Repr, Inhabited

/-- Where a number stands among the extended reals, in units of 2^-1074; `nan` stands nowhere. -/
inductive Place where
  | nowhere
  | bottom
  | at (units : Int)
  | top
  deriving DecidableEq, Repr, Inhabited

namespace Place

/-- Strictly below; nothing is below or above `nowhere`. -/
def lt : Place → Place → Bool
  | .nowhere, _ | _, .nowhere => false
  | .bottom, .bottom | .top, .top => false
  | .bottom, _ | _, .top => true
  | _, .bottom | .top, _ => false
  | .at a, .at b => a < b

/-- Equal as numbers, so `nowhere` does not equal itself. -/
def eq : Place → Place → Bool
  | .nowhere, _ => false
  | a, b => a = b

end Place

namespace Binary64

def one : Nat := Nat.pow 2 1074

/-- A whole number that is small enough to be held exactly. -/
def ofNat (n : Nat) : Binary64 := .finite false (n * one)

def half : Binary64 := .finite false (Nat.pow 2 1073)

/-- The first magnitude beyond the finite ones, in units. -/
def limit : Nat := Nat.pow 2 2098

/-- The magnitude nearest to `num / den` units with at most 53 significant bits, ties to even;
`none` beyond the finite ones. -/
def nearestUnits (num den : Nat) : Option Nat :=
  let step := Nat.pow 2 ((num / den).log2 - 52)
  let units := roundHalfEven num (den * step) * step
  if units < limit then some units else none

/-- A magnitude under a sign; beyond the finite ones stands infinity. -/
def ofUnits? (negative : Bool) : Option Nat → Binary64
  | some units => .finite negative units
  | none => .infinite negative

/-- The number nearest to `digits * 10^exponent`. Outside 10^±400 the answer is known without
computing the power. -/
def ofDecimal (negative : Bool) (digits : Nat) (exponent : Int) : Binary64 :=
  if digits = 0 then .finite negative 0
  else if 400 < exponent then .infinite negative
  else if exponent + (Nat.toDigits 10 digits).length < -400 then .finite negative 0
  else if 0 ≤ exponent then
    ofUnits? negative (nearestUnits (digits * Nat.pow 10 exponent.toNat * one) 1)
  else
    ofUnits? negative (nearestUnits (digits * one) (Nat.pow 10 (-exponent).toNat))

/-- The number nearest to a whole one; `none` when that lies beyond the finite ones. -/
def ofInt? (n : Int) : Option Binary64 :=
  (nearestUnits (n.natAbs * one) 1).map (.finite (n < 0))

def place : Binary64 → Place
  | .nan => .nowhere
  | .infinite true => .bottom
  | .infinite false => .top
  | .finite true units => .at (-(units : Int))
  | .finite false units => .at units

/-- A whole number stands at that many times `one`. -/
def placeOfInt (n : Int) : Place := .at (n * one)

def toInt? : Binary64 → Option Int
  | .finite negative units =>
    if units % one = 0 then some (if negative then -(units / one : Nat) else (units / one : Nat))
    else none
  | _ => none

def isFinite : Binary64 → Bool
  | .finite _ _ => true
  | _ => false

def isZero : Binary64 → Bool
  | .finite _ 0 => true
  | _ => false

end Binary64
end DebridCache
