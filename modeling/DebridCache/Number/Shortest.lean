import DebridCache.Number.Binary64

/-!
The fewest decimal digits that read back as a given binary64 magnitude, and of those the nearest.
-/

namespace DebridCache

structure Decimal where
  digits : Nat
  exponent : Int
  deriving DecidableEq, Repr, Inhabited

namespace Decimal

def readsBack (d : Decimal) (units : Nat) : Bool :=
  Binary64.ofDecimal false d.digits d.exponent = .finite false units

def trim : Nat → Decimal → Decimal
  | 0, d => d
  | fuel + 1, d =>
    if d.digits ≠ 0 ∧ d.digits % 10 = 0 then trim fuel ⟨d.digits / 10, d.exponent + 1⟩ else d

/-- The decimal exponent of the first significant digit of a positive magnitude. Scaled by 10^324
every positive magnitude is at least four, so its digits can be counted. -/
def leadingExponent (units : Nat) : Int :=
  ((Nat.toDigits 10 (units * Nat.pow 10 324 / Binary64.one)).length : Int) - 325

/-- The neighbours of `units` on the grid of multiples of `10^exponent`, the nearer one first; a tie
prefers the even one. -/
def neighbours (units : Nat) (exponent : Int) : List Decimal :=
  let num := if 0 ≤ exponent then units else units * Nat.pow 10 (-exponent).toNat
  let den := if 0 ≤ exponent then Binary64.one * Nat.pow 10 exponent.toNat else Binary64.one
  let below : Decimal := ⟨num / den, exponent⟩
  let above : Decimal := ⟨num / den + 1, exponent⟩
  if roundHalfEven num den = num / den then [below, above] else [above, below]

def search (units : Nat) (leading : Int) : Nat → Nat → Option Decimal
  | 0, _ => none
  | tries + 1, count =>
    match (neighbours units (leading - count)).find? (·.readsBack units) with
    | some d => some d
    | none => search units leading tries (count + 1)

/-- The fewest digits that read back as `units`; seventeen always do. -/
def shortest (units : Nat) : Decimal :=
  if units = 0 then ⟨0, 0⟩
  else
    match search units (leadingExponent units) 17 0 with
    | some d => d.trim 20
    | none => ⟨0, 0⟩

end Decimal
end DebridCache
