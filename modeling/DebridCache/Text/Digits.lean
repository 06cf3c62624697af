/-!
Decimal digits and signs, as numerals of every kind are made of them.
-/

namespace DebridCache.Text

/-- The ten digits of ASCII; other scripts' digits do not count. -/
def isDigit (c : Char) : Bool := '0' ≤ c && c ≤ '9'

def digitsValue (cs : List Char) : Nat := cs.foldl (fun n c => n * 10 + (c.toNat - 48)) 0

def signed : List Char → Bool × List Char
  | '-' :: rest => (true, rest)
  | '+' :: rest => (false, rest)
  | cs => (false, cs)

def negated (negative : Bool) (n : Int) : Int := if negative then -n else n

/-- The most digits that a whole number has where it is read or written. -/
def mostDigits : Nat := 4300

def isBrief (n : Int) : Bool := n.natAbs < Nat.pow 10 mostDigits

end DebridCache.Text
