import DebridCache.Text.Span

/-!
Blank characters, and text without the blanks around it.
-/

namespace DebridCache.Text

/-- Code points of the blank characters: spaces, line and paragraph ends, and the four separators
before the space. Zero-width marks are not among them. -/
def blankSpans : List (Nat × Nat) :=
  [(9, 13), (28, 32), (133, 133), (160, 160), (5760, 5760), (8192, 8202), (8232, 8233),
   (8239, 8239), (8287, 8287), (12288, 12288)]

def isBlank (c : Char) : Bool := inSpans blankSpans c.toNat

/-- The characters from the first that is not blank to the last. -/
def strip (cs : List Char) : List Char :=
  ((cs.dropWhile isBlank).reverse.dropWhile isBlank).reverse

end DebridCache.Text
