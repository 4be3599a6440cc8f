import TelemetryGate.Text.Utf8

/-!
# The bytes of a text

* `Utf8.encode_append`, `Utf8.encode_eq`   the bytes of a text, character by character;
* `Utf8.char_of_lt`, `Utf8.char_high`      a character below U+0080 is its own byte, the bytes of
                                           any other are all above;
* `Utf8.exists_of_decode?`                 such a byte stands for a character of the text.
-/

namespace TelemetryGate.Utf8

def char (c : Char) : List UInt8 := String.utf8EncodeChar c

theorem encode_append (s t : String) : encode (s ++ t) = encode s ++ encode t := by
  unfold encode
  rw [String.toByteArray_append, ByteArray.data_append, Array.toList_append]

theorem encode_ofList (cs : List Char) : encode (String.ofList cs) = cs.flatMap char := by
  unfold encode
  rw [String.toByteArray_ofList, List.utf8Encode, List.data_toByteArray]
  rfl

theorem encode_eq (s : String) : encode s = s.toList.flatMap char := by
  rw [← encode_ofList, String.ofList_toList]

/-- Bytes are a text if and only if they are the bytes of one. -/
theorem decode?_eq_some_iff {bytes : List UInt8} {s : String} :
    decode? bytes = some s ↔ encode s = bytes := by
  constructor
  · intro h
    unfold decode? String.fromUTF8? at h
    split at h
    · cases h
      exact List.toList_toArray
    · cases h
  · rintro rfl
    exact decode?_encode s

theorem encode_toString (c : Char) : encode c.toString = char c := by
  rw [encode_eq, Char.toString_eq_singleton, String.toList_singleton, List.flatMap_singleton]

variable {c : Char}

theorem char_of_lt (h : c.toNat < 0x80) : char c = [UInt8.ofNat c.toNat] :=
  if_pos (Nat.le_of_lt_succ h)

theorem toNat_ofNat_high {n : Nat} (h : 0x80 ≤ n) (h' : n < 0x100) :
    0x80 ≤ (UInt8.ofNat n).toNat := by
  rw [UInt8.toNat_ofNat_of_lt' h']
  exact h

/-- The bytes of a character from U+0080 on are none of those that stand alone. -/
theorem char_high (h : 0x80 ≤ c.toNat) {b : UInt8} (hb : b ∈ char c) : 0x80 ≤ b.toNat := by
  have hlow : ¬ c.val.toNat ≤ 0x7f := Nat.not_le.mpr h
  unfold char String.utf8EncodeChar at hb
  dsimp only at hb
  rw [if_neg hlow] at hb
  generalize c.val.toNat = n at hb
  by_cases h2 : n ≤ 0x7ff
  · rw [if_pos h2] at hb
    simp only [List.mem_cons, List.not_mem_nil, or_false] at hb
    rcases hb with rfl | rfl
    all_goals exact toNat_ofNat_high (by omega) (by omega)
  · rw [if_neg h2] at hb
    by_cases h3 : n ≤ 0xffff
    · rw [if_pos h3] at hb
      simp only [List.mem_cons, List.not_mem_nil, or_false] at hb
      rcases hb with rfl | rfl | rfl
      all_goals exact toNat_ofNat_high (by omega) (by omega)
    · rw [if_neg h3] at hb
      simp only [List.mem_cons, List.not_mem_nil, or_false] at hb
      rcases hb with rfl | rfl | rfl | rfl
      all_goals exact toNat_ofNat_high (by omega) (by omega)

/-- A byte below 0x80 in the bytes of a text stands for a character of it. -/
theorem exists_of_decode? {bytes : List UInt8} {s : String} (h : decode? bytes = some s)
    {b : UInt8} (hb : b ∈ bytes) (hlow : b.toNat < 0x80) : ∃ c ∈ s.toList, c.toNat = b.toNat := by
  rw [← decode?_eq_some_iff.mp h, encode_eq] at hb
  obtain ⟨c, hc, hb⟩ := List.mem_flatMap.mp hb
  have hascii : c.toNat < 0x80 := by
    refine Nat.not_le.mp fun hhigh => ?_
    exact absurd hlow (Nat.not_lt.mpr (char_high hhigh hb))
  rw [char_of_lt hascii, List.mem_singleton] at hb
  refine ⟨c, hc, ?_⟩
  rw [hb, UInt8.toNat_ofNat_of_lt' (Nat.lt_trans hascii (by decide))]

end TelemetryGate.Utf8
