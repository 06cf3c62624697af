/-!
UTF-8: text as bytes, and bytes as text, one entry for every character and for every run of bytes
that spells none.
-/

namespace DebridCache.Text.Utf8

def encode (cs : List Char) : List UInt8 := cs.flatMap String.utf8EncodeChar

/-- The character of a code point; a surrogate, which is no character, shows as U+FFFD. -/
def charOf (point : Nat) : Char :=
  if point.isValidChar then Char.ofNat point else '\ufffd'

/-- Where a decoder stands: between characters, or owed more bytes, the next one within bounds. -/
inductive State where
  | between
  | owed (count low high point : Nat)
  deriving DecidableEq, Repr

inductive Lead where
  | whole (entry : Option Char)
  | open (next : State)

/-- The bounds on the second byte rule out overlong forms and points past the last one; surrogates
are ruled out unless asked for. -/
def lead (surrogates : Bool) (b : Nat) : Lead :=
  if b < 0x80 then .whole (some (charOf b))
  else if b < 0xC2 then .whole none
  else if b < 0xE0 then .open (.owed 1 0x80 0xBF (b - 0xC0))
  else if b = 0xE0 then .open (.owed 2 0xA0 0xBF 0)
  else if b = 0xED then .open (.owed 2 0x80 (if surrogates then 0xBF else 0x9F) 0xD)
  else if b < 0xF0 then .open (.owed 2 0x80 0xBF (b - 0xE0))
  else if b = 0xF0 then .open (.owed 3 0x90 0xBF 0)
  else if b < 0xF4 then .open (.owed 3 0x80 0xBF (b - 0xF0))
  else if b = 0xF4 then .open (.owed 3 0x80 0x8F 4)
  else .whole none

/-- Every character in turn, with `none` for a run that breaks off before its character ends. The
byte that breaks a run starts the next one. -/
def scan (surrogates : Bool) : State → List UInt8 → List (Option Char)
  | .between, [] => []
  | .owed .., [] => [none]
  | .between, b :: bs =>
    match lead surrogates b.toNat with
    | .whole entry => entry :: scan surrogates .between bs
    | .open next => scan surrogates next bs
  | .owed count low high point, b :: bs =>
    if low ≤ b.toNat ∧ b.toNat ≤ high then
      let joined := point * 64 + (b.toNat - 0x80)
      if count ≤ 1 then some (charOf joined) :: scan surrogates .between bs
      else scan surrogates (.owed (count - 1) 0x80 0xBF joined) bs
    else
      match lead surrogates b.toNat with
      | .whole entry => none :: entry :: scan surrogates .between bs
      | .open next => none :: scan surrogates next bs

def decode? (surrogates : Bool) (bytes : List UInt8) : Option (List Char) :=
  (scan surrogates .between bytes).mapM id

def decodeLossy (bytes : List UInt8) : List Char :=
  (scan false .between bytes).map (·.getD '\ufffd')

end DebridCache.Text.Utf8
