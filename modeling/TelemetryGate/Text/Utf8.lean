/-!
# Texts as bytes

* `encode`      the bytes of a text;
* `decode?`     the text that some bytes spell, if they are UTF-8;
* `dropText`    what is left from the first byte that no character accounts for;
* `decodeLossy` the text with a replacement character for each stretch that is none.
-/

namespace TelemetryGate.Utf8

def encode (s : String) : List UInt8 := s.toByteArray.data.toList

def decode? (bytes : List UInt8) : Option String := String.fromUTF8? ⟨bytes.toArray⟩

theorem decode?_encode (s : String) : decode? (encode s) = some s := by
  simp only [decode?, encode, Array.toArray_toList]
  rw [String.fromUTF8?, dif_pos s.isValidUTF8]
  rfl

/-! ### the character at the head -/

def isTail (b : UInt8) : Bool := 0x80 ≤ b && b ≤ 0xBF

/-- Whether `b` may stand second after the first byte `a`. -/
def isSecond (a b : UInt8) : Bool :=
  if a = 0xE0 then 0xA0 ≤ b && b ≤ 0xBF
  else if a = 0xED then 0x80 ≤ b && b ≤ 0x9F
  else if a = 0xF0 then 0x90 ≤ b && b ≤ 0xBF
  else if a = 0xF4 then 0x80 ≤ b && b ≤ 0x8F
  else isTail b

/-- How many bytes a first byte asks to follow it. -/
def tailCount (a : UInt8) : Option Nat :=
  if a < 0x80 then some 0
  else if a < 0xC2 then none
  else if a < 0xE0 then some 1
  else if a < 0xF0 then some 2
  else if a < 0xF5 then some 3
  else none

/-- What follows the character at the head, if one stands there. -/
def dropChar? : List UInt8 → Option (List UInt8)
  | [] => none
  | a :: rest =>
    match tailCount a, rest with
    | some 0, _ => some rest
    | some 1, b :: rest => if isSecond a b then some rest else none
    | some 2, b :: c :: rest => if isSecond a b && isTail c then some rest else none
    | some 3, b :: c :: d :: rest =>
      if isSecond a b && isTail c && isTail d then some rest else none
    | _, _ => none

theorem dropChar?_length {bytes rest : List UInt8} (h : dropChar? bytes = some rest) :
    rest.length < bytes.length := by
  unfold dropChar? at h
  split at h
  · cases h
  · split at h <;> (try split at h) <;> cases h <;> simp only [List.length_cons] <;> omega

/-- What is left from the first byte that no character accounts for. -/
def dropText (bytes : List UInt8) : List UInt8 :=
  match _h : dropChar? bytes with
  | some rest => dropText rest
  | none => bytes
termination_by bytes.length
decreasing_by exact dropChar?_length ‹_›

/-! ### replacement -/

/-- How many bytes at the head begin a character without completing one; at least one. -/
def brokenLength : List UInt8 → Nat
  | [] => 0
  | a :: rest =>
    match tailCount a, rest with
    | some _, b :: c :: _ => if isSecond a b then (if isTail c && 0xF0 ≤ a then 3 else 2) else 1
    | some _, [b] => if isSecond a b then 2 else 1
    | _, _ => 1

/-- The bytes with the three bytes of the replacement character for each broken stretch. -/
def repair (acc : List UInt8) : List UInt8 → List UInt8
  | [] => acc.reverse
  | a :: rest =>
    match h : dropChar? (a :: rest) with
    | some after =>
      repair (((a :: rest).take (rest.length + 1 - after.length)).reverse ++ acc) after
    | none => repair (0xBD :: 0xBF :: 0xEF :: acc) (rest.drop (brokenLength (a :: rest) - 1))
termination_by bytes => bytes.length
decreasing_by
  · exact dropChar?_length h
  · simp only [List.length_drop, List.length_cons]; omega

/-- The text that the bytes spell, broken stretches replaced. -/
def decodeLossy (bytes : List UInt8) : String :=
  match decode? bytes with
  | some s => s
  | none => (decode? (repair [] bytes)).getD ""

end TelemetryGate.Utf8
