import TelemetryGate.Proofs.Json.Reads
import TelemetryGate.Proofs.Utf8

/-!
# Whole numbers, read back

* `takeDigits_append`     digits are taken to the last one as long as they fit;
* `decimals`              the digits of a number, the first of them no zero but for zero itself;
* `scanNumber_decimals`   they are read back, with a sign or without.
-/

namespace TelemetryGate.Json

variable {s₀ s : List UInt8}

/-! ### digits -/

/-- The number that digits make after another number. -/
def digitsAfter (n : Nat) (ds : List UInt8) : Nat := ds.foldl (fun n b => n * 10 + digit b) n

theorem le_digitsAfter (n : Nat) (ds : List UInt8) : n ≤ digitsAfter n ds := by
  induction ds generalizing n with
  | nil => exact Nat.le_refl n
  | cons b ds ih => exact Nat.le_trans (by omega) (ih (n * 10 + digit b))

variable {limit n count : Nat} {b : UInt8}

theorem takeDigits_of_stops (hs : Stops s) (h : s.length ≤ s₀.length) :
    takeDigits limit n count s h = ⟨n, count, s, false, h⟩ := by
  cases s with
  | nil => rw [takeDigits]
  | cons b rest =>
    obtain ⟨hb, _⟩ := hs b rfl
    rw [takeDigits, if_neg (by rw [hb]; decide)]

theorem takeDigits_of_digit (hb : isDigit b = true) (hfit : n * 10 + digit b ≤ limit)
    (h : (b :: s).length ≤ s₀.length) :
    takeDigits limit n count (b :: s) h =
      takeDigits limit (n * 10 + digit b) (count + 1) s (Shorter.le (Shorter.of_front h)) := by
  have hone : overflows limit n (digit b) = false := decide_eq_false (Nat.not_lt.mpr hfit)
  rw [takeDigits, if_pos hb, if_neg (by rw [hone]; decide)]

theorem takeDigits_append (limit n count : Nat) {ds : List UInt8}
    (hds : ∀ b ∈ ds, isDigit b = true) (hs : Stops s) (hfit : digitsAfter n ds ≤ limit)
    (h : (ds ++ s).length ≤ s₀.length) :
    ∃ h', takeDigits limit n count (ds ++ s) h =
      ⟨digitsAfter n ds, count + ds.length, s, false, h'⟩ := by
  induction ds generalizing n count with
  | nil => exact ⟨h, takeDigits_of_stops hs h⟩
  | cons b ds ih =>
    obtain ⟨hb, hrest⟩ := List.forall_mem_cons.mp hds
    have hone : n * 10 + digit b ≤ limit := Nat.le_trans (le_digitsAfter _ ds) hfit
    obtain ⟨h', htake⟩ := ih (n * 10 + digit b) (count + 1) hrest hfit
      (Shorter.le (Shorter.of_front h))
    refine ⟨h', ?_⟩
    rw [List.length_cons, Nat.add_comm ds.length 1, ← Nat.add_assoc]
    exact (takeDigits_of_digit hb hone h).trans htake

/-! ### the digits of a number -/

def decimals (n : Nat) : List UInt8 := (Nat.toDigits 10 n).map fun c => UInt8.ofNat c.toNat

theorem isDigit_ofNat {c : Char} (h : c.isDigit = true) :
    isDigit (UInt8.ofNat c.toNat) = true ∧ digit (UInt8.ofNat c.toNat) = c.toNat - '0'.toNat := by
  obtain ⟨hlow, hhigh⟩ := Char.isDigit_iff_toNat.mp h
  have hn : (UInt8.ofNat c.toNat).toNat = c.toNat :=
    UInt8.toNat_ofNat_of_lt' (Nat.lt_of_le_of_lt hhigh (by decide))
  refine ⟨?_, ?_⟩
  · rw [isDigit, decide_eq_true (UInt8.le_iff_toNat_le.mpr ?_),
      decide_eq_true (UInt8.le_iff_toNat_le.mpr ?_)]
    · rfl
    · rw [hn]; exact hhigh
    · rw [hn]; exact hlow
  · rw [digit, hn]
    rfl

theorem toDigits_front {n : Nat} (h : n ≠ 0) :
    ∃ c cs, Nat.toDigits 10 n = c :: cs ∧ c ≠ '0' := by
  induction n using Nat.base_induction 10 (by decide) with
  | single m hm =>
    refine ⟨Nat.digitChar m, [], Nat.toDigits_of_lt_base hm, ?_⟩
    exact fun e => h (Nat.digitChar_eq_zero.mp e)
  | digit m k hk hm ih =>
    obtain ⟨c, cs, hdigits, hc⟩ := ih (Nat.ne_of_gt hm)
    refine ⟨c, cs ++ Nat.toDigits 10 k, ?_, hc⟩
    rw [← Nat.toDigits_append_toDigits (by decide) hm hk, hdigits, List.cons_append]

theorem isDigit_of_mem {c : Char} (h : c ∈ Nat.toDigits 10 n) : c.isDigit = true :=
  Nat.isDigit_of_mem_toDigits (by decide) (by decide) h

theorem decimals_digit : ∀ b ∈ decimals n, isDigit b = true := by
  intro b hb
  obtain ⟨c, hc, rfl⟩ := List.mem_map.mp hb
  exact (isDigit_ofNat (isDigit_of_mem hc)).1

theorem decimals_ne_nil (n : Nat) : decimals n ≠ [] :=
  fun h => Nat.toDigits_ne_nil (List.map_eq_nil_iff.mp h)

theorem decimals_cons (n : Nat) : ∃ b bs, decimals n = b :: bs ∧ isDigit b = true := by
  obtain ⟨b, bs, hdecimals⟩ := List.exists_cons_of_ne_nil (decimals_ne_nil n)
  exact ⟨b, bs, hdecimals, decimals_digit b (hdecimals ▸ List.mem_cons_self)⟩

theorem digitsAfter_map (n : Nat) {cs : List Char} (h : ∀ c ∈ cs, c.isDigit = true) :
    digitsAfter n (cs.map fun c => UInt8.ofNat c.toNat) = Nat.ofDigitChars 10 cs n := by
  induction cs generalizing n with
  | nil => rw [Nat.ofDigitChars_nil]; rfl
  | cons c cs ih =>
    obtain ⟨hc, hcs⟩ := List.forall_mem_cons.mp h
    rw [Nat.ofDigitChars_cons, ← ih _ hcs, ← (isDigit_ofNat hc).2, Nat.mul_comm]
    rfl

theorem digitsAfter_decimals (n : Nat) : digitsAfter 0 (decimals n) = n :=
  (digitsAfter_map 0 fun _ hc => isDigit_of_mem hc).trans Nat.ofDigitChars_ten_toDigits

/-- The first digit, which is a zero for zero only. -/
theorem decimals_front {n : Nat} (h : n ≠ 0) :
    ∃ b bs, decimals n = b :: bs ∧ isDigit b = true ∧ b ≠ 48 := by
  obtain ⟨c, cs, hdigits, hc⟩ := toDigits_front h
  have hall : c.isDigit = true := isDigit_of_mem (n := n) (hdigits ▸ List.mem_cons_self)
  refine ⟨UInt8.ofNat c.toNat, cs.map fun c => UInt8.ofNat c.toNat, ?_, (isDigit_ofNat hall).1, ?_⟩
  · rw [decimals, hdigits, List.map_cons]
  · intro e
    have hvalue := (isDigit_ofNat hall).2
    rw [e] at hvalue
    have hlow := (Char.isDigit_iff_toNat.mp hall).1
    exact hc (Char.toNat_inj.mp (Nat.le_antisymm (Nat.sub_eq_zero_iff_le.mp hvalue.symm) hlow))

/-! ### numbers -/

theorem scanAfterWhole_of_stops (negative : Bool) (m dropped : Nat) (hs : Stops s)
    (h : s.length < s₀.length) :
    scanAfterWhole negative m false dropped s h =
      .ok ⟨scanAfterWhole.wholeOrReal negative m, s, h⟩ := by
  cases s with
  | nil => rw [scanAfterWhole]; rfl
  | cons b rest =>
    obtain ⟨_, hpoint, he, hE⟩ := hs b rfl
    rw [scanAfterWhole, if_neg hpoint, if_neg (by simp [he, hE])]

theorem scanNumber_zero {negative : Bool} (hs : Stops s) :
    ∃ h, scanNumber negative (decimals 0 ++ s) =
      .ok ⟨scanAfterWhole.wholeOrReal negative 0, s, h⟩ := by
  refine ⟨Shorter.tail, ?_⟩
  show scanNumber negative (48 :: s) = _
  have hafter := scanAfterWhole_of_stops negative 0 0 hs (Shorter.tail (b := 48))
  rw [scanNumber.eq_def]
  cases s with
  | nil => exact hafter
  | cons c rest =>
    obtain ⟨hc, _⟩ := hs c rfl
    simp only [if_true, hc]
    exact hafter

/-- The digits of a number are read back, with its sign. -/
theorem scanNumber_decimals (negative : Bool) {n : Nat} (hn : n ≤ Word.most) (hs : Stops s) :
    ∃ h, scanNumber negative (decimals n ++ s) =
      .ok ⟨scanAfterWhole.wholeOrReal negative n, s, h⟩ := by
  by_cases hzero : n = 0
  · subst hzero
    exact scanNumber_zero hs
  · obtain ⟨b, bs, hdecimals, hb, hne⟩ := decimals_front hzero
    have hall := decimals_digit (n := n)
    have hvalue := digitsAfter_decimals n
    rw [hdecimals] at hall hvalue ⊢
    -- the scanner takes the first digit by itself
    rw [digitsAfter, List.foldl_cons, Nat.zero_mul, Nat.zero_add, ← digitsAfter] at hvalue
    obtain ⟨h', htake⟩ := takeDigits_append maxWord (digit b) 1
      (List.forall_mem_cons.mp hall).2 hs (Nat.le_trans (Nat.le_of_eq hvalue) hn) Shorter.same
    rw [List.cons_append, scanNumber.eq_def]
    simp only [if_neg hne, if_pos hb, htake, hvalue, Bool.false_eq_true, if_false]
    exact ⟨Shorter.cons h', scanAfterWhole_of_stops negative n 0 hs _⟩

/-! ### their text -/

theorem encode_repr (n : Nat) : Utf8.encode n.repr = decimals n := by
  rw [Utf8.encode_eq, Nat.toList_repr, decimals, List.map_eq_flatMap, List.flatMap_def,
    List.flatMap_def]
  refine congrArg List.flatten (List.map_congr_left fun c hc => ?_)
  have hhigh := (Char.isDigit_iff_toNat.mp (isDigit_of_mem hc)).2
  exact Utf8.char_of_lt (Nat.lt_of_le_of_lt hhigh (by decide))

theorem encode_of_nonneg {n : Int} (h : 0 ≤ n) : Utf8.encode (toString n) = decimals n.toNat := by
  rw [Int.toString_eq_repr, Int.repr_eq_if, if_pos h, encode_repr]

theorem encode_of_neg {n : Int} (h : n < 0) :
    Utf8.encode (toString n) = 45 :: decimals (-n).toNat := by
  rw [Int.toString_eq_repr, Int.repr_eq_if, if_neg (Int.not_le.mpr h), Utf8.encode_append,
    encode_repr]
  rfl

/-- Whether a whole number fits a word, with a sign or without. -/
def Fits (n : Int) : Prop := -(Word.signLimit : Int) ≤ n ∧ n ≤ Word.most

instance (n : Int) : Decidable (Fits n) :=
  inferInstanceAs (Decidable (-(Word.signLimit : Int) ≤ n ∧ n ≤ Word.most))

theorem scanNumber_of_nonneg {n : Int} (h : Fits n) (hsign : 0 ≤ n) (hs : Stops s) :
    ∃ h', scanNumber false (decimals n.toNat ++ s) = .ok ⟨.whole n, s, h'⟩ := by
  have hwhole : scanAfterWhole.wholeOrReal false n.toNat = .whole n :=
    congrArg Number.whole (Int.toNat_of_nonneg hsign)
  rw [← hwhole]
  exact scanNumber_decimals false (Int.toNat_le.mpr h.2) hs

theorem scanNumber_of_neg {n : Int} (h : Fits n) (hsign : n < 0) (hs : Stops s) :
    ∃ h', scanNumber true (decimals (-n).toNat ++ s) = .ok ⟨.whole n, s, h'⟩ := by
  have hlimit : (-n).toNat ≤ Word.signLimit := Int.toNat_le.mpr (Int.neg_le_of_neg_le h.1)
  have hwhole : scanAfterWhole.wholeOrReal true (-n).toNat = .whole n := by
    have hreal : ¬ ((-n).toNat = 0 || Word.signLimit < (-n).toNat) = true := by
      rw [decide_eq_false (by omega), decide_eq_false (Nat.not_lt.mpr hlimit)]
      decide
    show (if _ then _ else Number.whole _) = _
    rw [if_neg hreal, Int.toNat_of_nonneg (by omega), Int.neg_neg, if_pos rfl]
  rw [← hwhole]
  exact scanNumber_decimals true (Nat.le_trans hlimit (by decide)) hs

end TelemetryGate.Json
