import DebridCache.Text.Span
import DebridCache.Text.Printable.Table

/-!
Characters that can be shown as they are.
-/

namespace DebridCache.Text

def isPrintable (c : Char) : Bool :=
  if c.toNat < 127 then 32 ≤ c.toNat else !inSpans unprintableSpans c.toNat

end DebridCache.Text
