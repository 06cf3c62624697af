import DebridCache.Text.Utf8
import DebridCache.Value.Text

/-!
Characters that an address or a form cannot carry as they are, written as the bytes of their UTF-8.
-/

namespace DebridCache.Wire

def upperHexDigit (n : Nat) : Char := if n < 10 then Char.ofNat (48 + n) else Char.ofNat (55 + n)

def percentByte (b : UInt8) : List Char :=
  ['%', upperHexDigit (b.toNat / 16), upperHexDigit (b.toNat % 16)]

def percentChar (c : Char) : List Char := (String.utf8EncodeChar c).flatMap percentByte

/-- A character in an address: printable ASCII stays but for the excluded characters. A percent sign
stays too, so text that is escaped already does not change. -/
def addressChar (excluded : List Char) (c : Char) : List Char :=
  if 0x20 ≤ c.toNat ∧ c.toNat < 0x7F ∧ c ∉ excluded then [c] else percentChar c

def pathExcluded : List Char := [' ', '"', '#', '<', '>', '?', '\x60', '\x7b', '\x7d']

def queryExcluded : List Char := [' ', '"', '#', '<', '>']

def fragmentExcluded : List Char := [' ', '"', '<', '>', '\x60']

def escapePath (cs : List Char) : List Char := cs.flatMap (addressChar pathExcluded)

def escapeQuery (cs : List Char) : List Char := cs.flatMap (addressChar queryExcluded)

def escapeFragment (cs : List Char) : List Char := cs.flatMap (addressChar fragmentExcluded)

def isUnreserved (c : Char) : Bool :=
  ('A' ≤ c && c ≤ 'Z') || ('a' ≤ c && c ≤ 'z') || ('0' ≤ c && c ≤ '9') ||
    c = '_' || c = '.' || c = '-' || c = '~'

def formChar (c : Char) : List Char :=
  if isUnreserved c then [c] else if c = ' ' then ['+'] else percentChar c

end DebridCache.Wire
