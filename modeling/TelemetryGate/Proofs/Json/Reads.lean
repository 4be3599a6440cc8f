import TelemetryGate.Json.Reader

/-!
# What a reader reads

* `Reads`     a reader takes a value from the front and leaves what follows, or nothing;
* `Stops`     what follows does not go on with a number;
* `Printed`   bytes that stand for a value, whatever follows that stops.
-/

namespace TelemetryGate.Json

variable {α : Type} {s : List UInt8} {b : UInt8}

/-- The reader takes a value from the front and leaves what follows. -/
def Reads (read : Reader α) (s : List UInt8) (v : α) (t : List UInt8) : Prop :=
  ∃ h, read s = .ok ⟨v, t, h⟩

/-- What is read is the whole text, if only blanks follow. -/
theorem Reads.whole {read : Reader α} {v : α} {t : List UInt8} (h : Reads read s v t)
    (ht : skipBlanks t = []) : readWhole read s = .ok v := by
  obtain ⟨_, hread⟩ := h
  rw [readWhole, hread]
  simp only [ht]

/-- No digit, point or exponent comes first. -/
def Stops (s : List UInt8) : Prop :=
  ∀ b ∈ s.head?, isDigit b = false ∧ b ≠ 46 ∧ b ≠ 101 ∧ b ≠ 69

theorem stops_cons (h : isDigit b = false ∧ b ≠ 46 ∧ b ≠ 101 ∧ b ≠ 69) (s : List UInt8) :
    Stops (b :: s) := by
  intro b' hb
  cases hb
  exact h

/-- The bytes stand for a value, and neither a blank nor the end of a list comes first. -/
structure Printed (read : Reader α) (v : α) (bytes : List UInt8) : Prop where
  front : ∃ b rest, bytes = b :: rest ∧ isBlank b = false ∧ b ≠ 93
  reads : ∀ s, Stops s → Reads read (bytes ++ s) v s

theorem ahead_cons (h : isBlank b = false) (s : List UInt8) :
    ahead (b :: s) = some ⟨b, s, Shorter.tail⟩ := by
  rw [ahead, if_neg (by rw [h]; decide)]

end TelemetryGate.Json
