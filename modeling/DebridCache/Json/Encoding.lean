import DebridCache.Text.Utf8

/-!
Which encoding a JSON document is in, and its characters. A byte order mark decides; without one, the
places of the zero bytes among the first four do.
-/

namespace DebridCache.Json

inductive Encoding where
  | utf8
  | utf16 (bigEndian : Bool)
  | utf32 (bigEndian : Bool)
  deriving DecidableEq, Repr

def detect : List UInt8 → Encoding × List UInt8
  | 0 :: 0 :: 0xFE :: 0xFF :: bs => (.utf32 true, bs)
  | 0xFF :: 0xFE :: 0 :: 0 :: bs => (.utf32 false, bs)
  | 0xFE :: 0xFF :: bs => (.utf16 true, bs)
  | 0xFF :: 0xFE :: bs => (.utf16 false, bs)
  | 0xEF :: 0xBB :: 0xBF :: bs => (.utf8, bs)
  | bs@(a :: b :: c :: d :: _) =>
    if a = 0 then (if b = 0 then .utf32 true else .utf16 true, bs)
    else if b = 0 then (if c = 0 ∧ d = 0 then .utf32 false else .utf16 false, bs)
    else (.utf8, bs)
  | bs@(a :: b :: []) => (if a = 0 then .utf16 true else if b = 0 then .utf16 false else .utf8, bs)
  | bs => (.utf8, bs)

/-- Pairs of bytes as numbers; an odd byte is no document. -/
def pairs? (bigEndian : Bool) : List UInt8 → Option (List Nat)
  | [] => some []
  | a :: b :: bs =>
    let unit := if bigEndian then a.toNat * 256 + b.toNat else b.toNat * 256 + a.toNat
    (pairs? bigEndian bs).map (unit :: ·)
  | [_] => none

def isHighSurrogate (unit : Nat) : Bool := 0xD800 ≤ unit && unit < 0xDC00

def isLowSurrogate (unit : Nat) : Bool := 0xDC00 ≤ unit && unit < 0xE000

/-- Code points from units of which two surrogates may make one; a lone one stays. -/
def joinSurrogates : List Nat → List Nat
  | [] => []
  | [unit] => [unit]
  | high :: low :: rest =>
    if isHighSurrogate high && isLowSurrogate low then
      (0x10000 + (high - 0xD800) * 0x400 + (low - 0xDC00)) :: joinSurrogates rest
    else high :: joinSurrogates (low :: rest)

def quads? (bigEndian : Bool) : List UInt8 → Option (List Nat)
  | [] => some []
  | a :: b :: c :: d :: bs =>
    let ordered := if bigEndian then [a, b, c, d] else [d, c, b, a]
    let point := ordered.foldl (fun n byte => n * 256 + byte.toNat) 0
    if point < 0x110000 then (quads? bigEndian bs).map (point :: ·) else none
  | _ => none

def characters? (bytes : List UInt8) : Option (List Char) :=
  match detect bytes with
  | (.utf8, bs) => Text.Utf8.decode? true bs
  | (.utf16 bigEndian, bs) => (pairs? bigEndian bs).map fun us =>
      (joinSurrogates us).map Text.Utf8.charOf
  | (.utf32 bigEndian, bs) => (quads? bigEndian bs).map fun ps => ps.map Text.Utf8.charOf

end DebridCache.Json
