/-!
# Blank characters

* `isBlank`   the characters of the White_Space property;
* `trim`      a text without blanks at either end;
* `isBlankText`  whether nothing is left of it.
-/

namespace TelemetryGate.Text

/-- The White_Space property. -/
def isBlank (c : Char) : Bool :=
  let n := c.toNat
  (9 ≤ n && n ≤ 13) || n = 0x20 || n = 0x85 || n = 0xA0 || n = 0x1680
    || (0x2000 ≤ n && n ≤ 0x200A) || n = 0x2028 || n = 0x2029 || n = 0x202F || n = 0x205F
    || n = 0x3000

def trim (s : String) : String :=
  String.ofList (((s.toList.dropWhile isBlank).reverse.dropWhile isBlank).reverse)

def isBlankText (s : String) : Bool := s.toList.all isBlank

end TelemetryGate.Text
