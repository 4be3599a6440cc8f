import Mathlib.Data.List.TakeWhile
import TelemetryGate.Decimal.Reading
import TelemetryGate.Proofs.Json.Number

/-!
# Whole numbers in texts

* `toList_toString`            the digits of a whole number, after a minus if it is below zero;
* `readWhole?_toString`        it is read as it was written;
* `readReal?_of_readWhole?`    what reads as a whole number reads as a number.
-/

namespace TelemetryGate.Decimal

theorem readDigits?_toDigits (n : Nat) : readDigits? (Nat.toDigits 10 n) = some n := by
  have hne : (Nat.toDigits 10 n).isEmpty = false := by
    rw [List.isEmpty_eq_false_iff]
    exact Nat.toDigits_ne_nil
  have hall : (Nat.toDigits 10 n).all Char.isDigit = true :=
    List.all_eq_true.mpr fun c hc => Json.isDigit_of_mem hc
  rw [readDigits?, hne, hall]
  exact congrArg some Nat.ofDigitChars_ten_toDigits

theorem digit_ne {c d : Char} (h : c.isDigit = true) (hd : d.isDigit = false) : c ≠ d := by
  rintro rfl
  rw [h] at hd
  cases hd

theorem takeSign_digits {cs : List Char} (h : ∀ c ∈ cs, c.isDigit = true) :
    takeSign cs = (false, cs) := by
  fun_cases takeSign cs with
  | case1 rest => exact absurd (h '+' List.mem_cons_self) (by decide)
  | case2 rest => exact absurd (h '-' List.mem_cons_self) (by decide)
  | case3 s => rfl

/-- The text of a whole number: its digits, after a minus if it is below zero. -/
theorem toList_toString (n : Int) :
    (toString n).toList = Nat.toDigits 10 n.natAbs ∧ 0 ≤ n ∨
      (toString n).toList = '-' :: Nat.toDigits 10 n.natAbs ∧ n < 0 := by
  rw [Int.toString_eq_repr, Int.repr_eq_if]
  by_cases hn : 0 ≤ n
  · have habs : n.toNat = n.natAbs := by omega
    rw [if_pos hn, Nat.toList_repr, habs]
    exact .inl ⟨rfl, hn⟩
  · have habs : (-n).toNat = n.natAbs := by omega
    rw [if_neg hn, String.toList_append, Nat.toList_repr, habs]
    exact .inr ⟨rfl, Int.not_le.mp hn⟩

/-- A whole number is read as it was written. -/
theorem readWhole?_toString (n : Int) : readWhole? (toString n).toList = some n := by
  rcases toList_toString n with ⟨htext, hn⟩ | ⟨htext, hn⟩
  · have hsign : takeSign (Nat.toDigits 10 n.natAbs) = (false, Nat.toDigits 10 n.natAbs) :=
      takeSign_digits fun c hc => Json.isDigit_of_mem hc
    have hvalue : (n.natAbs : Int) = n := Int.natAbs_of_nonneg hn
    rw [htext, readWhole?, hsign]
    dsimp only
    rw [readDigits?_toDigits]
    exact congrArg some hvalue
  · have hvalue : -(n.natAbs : Int) = n := by omega
    rw [htext, readWhole?, takeSign]
    dsimp only
    rw [readDigits?_toDigits]
    exact congrArg some hvalue

theorem isDigit_of_readDigits? {ds : List Char} {n : Nat} (h : readDigits? ds = some n) :
    ∀ c ∈ ds, c.isDigit = true := by
  revert h
  fun_cases readDigits? ds with
  | case1 hds =>
    intro _
    exact List.all_eq_true.mp (Bool.and_eq_true_iff.mp hds).2
  | case2 => exact nofun

/-- What reads as a whole number reads as a number. -/
theorem readReal?_of_readWhole? {cs : List Char} {n : Int} (h : readWhole? cs = some n) :
    ∃ x, readReal? cs = some x := by
  rcases hsign : takeSign cs with ⟨negative, ds⟩
  rw [readWhole?, hsign] at h
  obtain ⟨_, hread, _⟩ := Option.map_eq_some_iff.mp h
  obtain ⟨m, hdigits, _⟩ := Option.bind_eq_some_iff.mp hread
  have hunsigned : readUnsigned? ds = some (scaled m 0) := by
    have hall : ∀ c ∈ ds, c.isDigit = true := isDigit_of_readDigits? hdigits
    have hmark : ∀ c ∈ ds, (!isExponentMark c) = true := by
      intro c hc
      rw [isExponentMark, decide_eq_false (digit_ne (hall c hc) (by decide)),
        decide_eq_false (digit_ne (hall c hc) (by decide))]
      rfl
    have hpoint : ∀ c ∈ ds, decide (c ≠ '.') = true := fun c hc =>
      decide_eq_true (digit_ne (hall c hc) (by decide))
    rw [readUnsigned?, List.takeWhile_eq_self_iff.mpr hmark,
      List.takeWhile_eq_self_iff.mpr hpoint, List.drop_length, List.tail_nil, List.append_nil,
      hdigits]
    rfl
  refine Option.isSome_iff_exists.mp ?_
  unfold readReal?
  rw [hsign]
  dsimp only
  rw [hunsigned, Option.isSome_map]
  split
  · rfl
  · split
    · rfl
    · rfl

end TelemetryGate.Decimal
