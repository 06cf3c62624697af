/-!
Sets of characters given as spans of code points.
-/

namespace DebridCache.Text

def inSpans (spans : List (Nat × Nat)) (point : Nat) : Bool :=
  spans.any fun s => s.1 ≤ point && point ≤ s.2

end DebridCache.Text
