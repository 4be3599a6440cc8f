/-!
# Words

* `Word.most`       the largest word of 64 bits;
* `Word.isSigned`   whether a whole number fits a word of 64 bits with a sign.
-/

namespace TelemetryGate.Word

/-- the largest word of 64 bits -/
def most : Nat := 0xFFFFFFFFFFFFFFFF

def mostShort : Nat := 0xFFFF

/-- how many words of 64 bits have no sign bit set -/
def signLimit : Nat := 0x8000000000000000

/-- Whether a whole number fits a word of 64 bits with a sign. -/
def isSigned (n : Int) : Bool := -signLimit ≤ n && n < signLimit

end TelemetryGate.Word
