import TelemetryGate.Proofs.Json.Grammar

/-!
# Numbers as text has them

* `Numeral.skip`       a number that is well formed is passed over;
* `Numeral.settles`    it is read to its end, unless it is out of range.
-/

namespace TelemetryGate.Json

variable {s₀ s t u : List UInt8} {b : UInt8}

/-! ### digits -/

/-- No digit comes first. -/
def Ends (s : List UInt8) : Prop := ∀ b ∈ s.head?, isDigit b = false

theorem ends_cons (h : isDigit b = false) (s : List UInt8) : Ends (b :: s) := by
  intro b' hb
  cases hb
  exact h

theorem Stops.ends (h : Stops s) : Ends s := fun b hb => (h b hb).1

theorem Power.ends (h : Power s t) (hs : Stops t) : Ends s := by
  cases h with
  | none => exact hs.ends
  | some he =>
    rcases he with rfl | rfl
    · exact ends_cons (by decide) _
    · exact ends_cons (by decide) _

theorem Places.ends (h : Places s u) (power : Power u t) (hs : Stops t) : Ends s := by
  cases h with
  | none => exact power.ends hs
  | some => exact ends_cons (by decide) _

theorem skipDigits_of_ends (h : Ends s) : skipDigits s = s := by
  cases s with
  | nil => rfl
  | cons b s =>
    have hb : isDigit b = false := h b rfl
    rw [skipDigits, if_neg (by rw [hb]; decide)]

theorem skipDigits_run (h : Run isDigit s t) (ht : Ends t) : skipDigits s = t := by
  induction h with
  | done => exact skipDigits_of_ends ht
  | step hb _ ih =>
    rw [skipDigits, if_pos hb]
    exact ih ht

/-- What digits are taken leaves digits to skip, and none if the number did not get too great. -/
theorem takeDigits_run (limit : Nat) (h : Run isDigit s t) (ht : Ends t) (n count : Nat)
    (hs : s.length ≤ s₀.length) :
    skipDigits (takeDigits limit n count s hs).rest = t ∧
      ((takeDigits limit n count s hs).full = false →
        (takeDigits limit n count s hs).rest = t) ∧
      count ≤ (takeDigits limit n count s hs).count := by
  induction h generalizing n count with
  | @done s =>
    have hstop : takeDigits limit n count s hs = ⟨n, count, s, false, hs⟩ := by
      cases s with
      | nil => rw [takeDigits]
      | cons b s =>
        have hb : isDigit b = false := ht b rfl
        rw [takeDigits, if_neg (by rw [hb]; decide)]
    rw [hstop]
    exact ⟨skipDigits_of_ends ht, fun _ => rfl, Nat.le_refl _⟩
  | @step b s t hb rest ih =>
    rw [takeDigits, if_pos hb]
    by_cases hover : overflows limit n (digit b)
    · rw [if_pos hover]
      refine ⟨skipDigits_run (.step hb rest) ht, ?_, Nat.le_refl _⟩
      intro hfull
      cases hfull
    · rw [if_neg hover]
      obtain ⟨hskip, hrest, hcount⟩ := ih ht (n * 10 + digit b) (count + 1)
        (Shorter.le (Shorter.of_front hs))
      exact ⟨hskip, hrest, Nat.le_of_succ_le hcount⟩

/-- One digit at least is taken or does not fit. -/
theorem takeDigits_some (limit n : Nat) (hb : isDigit b = true) (h : Run isDigit s t)
    (ht : Ends t) (hs : (b :: s).length ≤ s₀.length) :
    (takeDigits limit n 0 (b :: s) hs).full = true ∨
      (takeDigits limit n 0 (b :: s) hs).count ≠ 0 := by
  rw [takeDigits, if_pos hb]
  by_cases hover : overflows limit n (digit b)
  · rw [if_pos hover]
    exact .inl rfl
  · rw [if_neg hover]
    obtain ⟨_, _, hcount⟩ := takeDigits_run limit h ht (n * 10 + digit b) 1
      (Shorter.le (Shorter.of_front hs))
    exact .inr (Nat.ne_of_gt hcount)

/-! ### passing over -/

theorem skipExponent_sign (sign : Sign s (b :: u)) (hb : isDigit b = true)
    (h : Run isDigit u t) (ht : Ends t) : ∃ h', skipExponent s = .ok ⟨t, h'⟩ := by
  have hskip : skipDigits u = t := skipDigits_run h ht
  subst hskip
  cases sign with
  | none =>
    have hplus : b ≠ 43 := ne_of_isDigit hb (by decide)
    have hminus : b ≠ 45 := ne_of_isDigit hb (by decide)
    refine ⟨skipDigits_lt (Nat.le_refl _), ?_⟩
    simp only [skipExponent, hplus, hminus, decide_false, Bool.or_false, Bool.false_eq_true,
      if_false, if_pos hb]
  | plus =>
    refine ⟨skipDigits_lt Shorter.tail_le, ?_⟩
    simp only [skipExponent, decide_true, Bool.true_or, if_true, if_pos hb]
  | minus =>
    refine ⟨skipDigits_lt Shorter.tail_le, ?_⟩
    simp only [skipExponent, decide_true, Bool.or_true, if_true, if_pos hb]

theorem Power.skip (h : Power s t) (ht : Stops t) (hs : s.length < s₀.length) :
    ∃ h', skipTail s hs = .ok ⟨t, h'⟩ := by
  cases h with
  | none =>
    refine ⟨hs, ?_⟩
    cases s with
    | nil => rfl
    | cons b s =>
      obtain ⟨_, _, he, hE⟩ := ht b rfl
      rw [skipTail, if_neg (by simp [he, hE])]
  | @some e b s u t he sign hb h =>
    obtain ⟨h', hskip⟩ := skipExponent_sign sign hb h ht.ends
    refine ⟨Nat.lt_trans h' (Nat.lt_of_succ_lt hs), ?_⟩
    rw [skipTail, if_pos (by simpa using he), hskip]
    rfl

theorem Places.skip (h : Places s u) (power : Power u t) (ht : Stops t)
    (hs : s.length < s₀.length) : ∃ h', skipPlaces s hs = .ok ⟨t, h'⟩ := by
  cases h with
  | none =>
    obtain ⟨h', hskip⟩ := power.skip ht hs
    cases s with
    | nil =>
      cases power with
      | none => exact ⟨h', rfl⟩
    | cons b s =>
      have hpoint : b ≠ 46 := by
        cases power with
        | none => exact (ht b rfl).2.1
        | some he =>
          rcases he with rfl | rfl
          · decide
          · decide
      refine ⟨h', ?_⟩
      rw [skipPlaces.eq_def]
      simp only [if_neg hpoint]
      exact hskip
  | @some b s t' hb h =>
    have hskip : skipDigits s = u := skipDigits_run h (power.ends ht)
    subst hskip
    have hshort : (skipDigits s).length < s₀.length := by
      have hle := skipDigits_length s
      simp only [List.length_cons] at hs
      omega
    obtain ⟨h', htail⟩ := power.skip ht hshort
    refine ⟨h', ?_⟩
    rw [skipPlaces]
    simp only [if_true, if_pos hb]
    exact htail

/-- **A number that is well formed is passed over.** -/
theorem Numeral.skip (h : Numeral s t) (ht : Stops t) : ∃ h', skipNumber s = .ok ⟨t, h'⟩ := by
  cases h with
  | @zero s u t places power =>
    have hends := places.ends power ht
    have hshort : s.length < (48 :: s).length := Shorter.tail
    obtain ⟨h', hskip⟩ := places.skip power ht hshort
    refine ⟨h', ?_⟩
    rw [skipNumber.eq_def]
    cases s with
    | nil =>
      cases places
      cases power
      rfl
    | cons c s =>
      have hc : isDigit c = false := hends c rfl
      simp only [if_true, hc, Bool.false_eq_true, if_false]
      exact hskip
  | @more b s u v t hb hne digits places power =>
    have hdigits : skipDigits s = u := skipDigits_run digits (places.ends power ht)
    subst hdigits
    obtain ⟨h', hskip⟩ := places.skip power ht (skipDigits_lt (b := b) Shorter.front_same)
    refine ⟨h', ?_⟩
    rw [skipNumber.eq_def]
    simp only [if_neg hne, if_pos hb]
    exact hskip


/-! ### reading -/

/-- A number is read and leaves what follows, or is out of range. -/
def Settles (x : Except Fault (Read Number s₀)) (t : List UInt8) : Prop :=
  (∃ v h, x = .ok ⟨v, t, h⟩) ∨ ∃ rest, x = .error ⟨.numberRange, rest⟩

theorem Settles.widen {x : Except Fault (Read Number s)} (h : Settles x t)
    (hle : s.length ≤ s₀.length) : Settles (x.map (Read.widen hle)) t := by
  rcases h with ⟨v, h, rfl⟩ | ⟨rest, rfl⟩
  · exact .inl ⟨v, Nat.lt_of_lt_of_le h hle, rfl⟩
  · exact .inr ⟨rest, rfl⟩

theorem settles_assembleAt (negative : Bool) (m : Nat) (e : Int) (ht : t.length < s₀.length) :
    Settles (match assembleAt negative m e t with
      | .ok x => .ok ⟨x, t, ht⟩
      | .error f => .error f) t := by
  unfold assembleAt
  cases assemble negative m e with
  | none => exact .inr ⟨t, rfl⟩
  | some x => exact .inl ⟨.real x, ht, rfl⟩

theorem settles_exponent (negative : Bool) (m : Nat) (e : Int) (sign : Sign s (b :: u))
    (hb : isDigit b = true) (h : Run isDigit u t) (ht : Ends t) :
    Settles (scanExponent negative m e s) t := by
  have hplus : b ≠ 43 := ne_of_isDigit hb (by decide)
  have hminus : b ≠ 45 := ne_of_isDigit hb (by decide)
  obtain ⟨hskip, hrest, _⟩ := takeDigits_run maxExponent h ht (digit b) 1 (Shorter.same (s := u))
  have hsigns : (45 : UInt8) ≠ 43 := by decide
  cases sign
  -- whatever the sign, the power counts, or it is so great that the number is none or a zero
  all_goals
    simp only [scanExponent, hplus, hminus, hsigns, if_false, if_true, if_pos hb]
    by_cases hfull : (takeDigits maxExponent (digit b) 1 u Shorter.same).full = true
    · rw [if_pos hfull]
      split
      · exact .inr ⟨_, rfl⟩
      · exact .inl ⟨_, _, by simp only [hskip]; rfl⟩
    · rw [if_neg hfull]
      have hall := hrest (Bool.eq_false_iff.mpr hfull)
      simp only [hall]
      exact settles_assembleAt _ _ _ _

theorem Power.settles (negative : Bool) (m : Nat) (e : Int) (h : Power s t) (ht : Stops t)
    (hs : s.length < s₀.length) : Settles (scanTail negative m e s hs) t := by
  cases h with
  | none =>
    cases s with
    | nil => exact settles_assembleAt negative m e hs
    | cons b s =>
      obtain ⟨_, _, he, hE⟩ := ht b rfl
      rw [scanTail, if_neg (by simp [he, hE])]
      exact settles_assembleAt negative m e hs
  | @some c b s u t he sign hb h =>
    rw [scanTail, if_pos (by simpa using he)]
    exact (settles_exponent negative m e sign hb h ht.ends).widen _

theorem Power.settles_places (negative : Bool) (m : Nat) (e : Int) (hb : isDigit b = true)
    (h : Run isDigit s u) (power : Power u t) (ht : Stops t) (hs : (b :: s).length < s₀.length) :
    Settles (scanPlaces negative m e (b :: s) hs) t := by
  have hends := power.ends ht
  obtain ⟨hskip, hrest, _⟩ := takeDigits_run maxWord (.step hb h) hends m 0
    (Shorter.same (s := b :: s))
  have hsome := takeDigits_some maxWord m hb h hends (Shorter.same (s := b :: s))
  unfold scanPlaces
  dsimp only
  by_cases hfull : (takeDigits maxWord m 0 (b :: s) Shorter.same).full = true
  · rw [if_pos hfull]
    simp only [hskip]
    exact power.settles negative _ _ ht _
  · have hcount : (takeDigits maxWord m 0 (b :: s) Shorter.same).count ≠ 0 :=
      hsome.resolve_left hfull
    have hall := hrest (Bool.eq_false_iff.mpr hfull)
    rw [if_neg hfull, if_neg hcount]
    simp only [hall]
    exact power.settles negative _ _ ht _

theorem Places.settles (negative : Bool) (m : Nat) (full : Bool) (dropped : Nat)
    (h : Places s u) (power : Power u t) (ht : Stops t) (hs : s.length < s₀.length) :
    Settles (scanAfterWhole negative m full dropped s hs) t := by
  cases h with
  | some hb h => exact power.settles_places negative m dropped hb h ht (Nat.lt_of_succ_lt hs)
  | none =>
    cases s with
    | nil =>
      cases power
      cases full with
      | true => exact Power.none.settles negative m dropped ht hs
      | false => exact .inl ⟨_, hs, rfl⟩
    | cons b s =>
      have hpoint : b ≠ 46 := by
        cases power with
        | none => exact (ht b rfl).2.1
        | some he =>
          rcases he with rfl | rfl
          · decide
          · decide
      rw [scanAfterWhole, if_neg hpoint]
      split
      · exact power.settles negative m dropped ht hs
      · rename_i hplain
        cases power with
        | none => exact .inl ⟨_, hs, rfl⟩
        | some he =>
          exact absurd (by rcases he with rfl | rfl <;> rfl) hplain

/-- **A number that is well formed is read to its end, unless it is out of range.** -/
theorem Numeral.settles (negative : Bool) (h : Numeral s t) (ht : Stops t) :
    Settles (scanNumber negative s) t := by
  cases h with
  | @zero s u t places power =>
    have hends := places.ends power ht
    have hshort : s.length < (48 :: s).length := Shorter.tail
    have hafter := places.settles negative 0 false 0 power ht hshort
    rw [scanNumber.eq_def]
    cases s with
    | nil => exact hafter
    | cons c s =>
      have hc : isDigit c = false := hends c rfl
      simp only [if_true, hc, Bool.false_eq_true, if_false]
      exact hafter
  | @more b s u v t hb hne digits places power =>
    obtain ⟨hskip, hrest, _⟩ := takeDigits_run maxWord digits (places.ends power ht) (digit b) 1
      (Shorter.same (s := s))
    rw [scanNumber.eq_def]
    simp only [if_neg hne, if_pos hb]
    by_cases hfull : (takeDigits maxWord (digit b) 1 s Shorter.same).full = true
    · rw [if_pos hfull]
      simp only [hskip]
      exact places.settles negative _ true _ power ht _
    · have hall := hrest (Bool.eq_false_iff.mpr hfull)
      rw [if_neg hfull]
      simp only [hall]
      exact places.settles negative _ false 0 power ht _

end TelemetryGate.Json
