import DebridCache.Text.Span
import DebridCache.Text.Lowercase.Table
import DebridCache.Text.Cased.Table

/-!
Lowercase text. Each character has its own form, but for two: a dotted capital I becomes two
characters, and a sigma at the end of a word takes its final form.
-/

namespace DebridCache.Text

def CaseSpan.holds (s : CaseSpan) (point : Nat) : Bool :=
  s.first ≤ point && point ≤ s.last && (point - s.first) % s.step == 0

def lowerPoint (point : Nat) : Nat :=
  match caseSpans.find? (·.holds point) with
  | some s => s.image + (point - s.first)
  | none => point

def isCased (c : Char) : Bool := inSpans casedSpans c.toNat

def isIgnorable (c : Char) : Bool := inSpans ignorableSpans c.toNat

/-- Whether the first character that is not looked past has case. -/
def meetsCased (cs : List Char) : Bool :=
  match cs.dropWhile isIgnorable with
  | c :: _ => isCased c
  | [] => false

/-- One character in lowercase, given those before it, nearest first, and those after it. -/
def lowerChar (before : List Char) (c : Char) (after : List Char) : List Char :=
  if c = '\u03a3' then
    [if meetsCased before && !meetsCased after then '\u03c2' else '\u03c3']
  else if c = '\u0130' then ['i', '\u0307']
  else [Char.ofNat (lowerPoint c.toNat)]

/-- `lower`, with the characters already passed, nearest first. -/
def lowerFrom (before : List Char) : List Char → List Char
  | [] => []
  | c :: after => lowerChar before c after ++ lowerFrom (c :: before) after

def lower (cs : List Char) : List Char := lowerFrom [] cs

end DebridCache.Text
