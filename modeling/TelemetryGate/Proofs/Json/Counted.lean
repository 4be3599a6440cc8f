import TelemetryGate.Proofs.Json.Behind

/-!
# Numbers that were scanned

* `scanNumber_found`      a number that was read is well formed, and it is read just so with
                          anything behind what follows it;
* `skipNumber_numeral`    a number that was passed over is well formed.
-/

namespace TelemetryGate.Json

variable {s s₀ t u : List UInt8} {b : UInt8} {negative : Bool} {m : Nat} {e : Int} {v : Number}

/-! ### digits -/

theorem run_skipDigits (s : List UInt8) : Run isDigit s (skipDigits s) := by
  induction s with
  | nil => exact .done
  | cons b s ih =>
    rw [skipDigits]
    by_cases hb : isDigit b = true
    · rw [if_pos hb]
      exact .step hb ih
    · rw [if_neg hb]
      exact .done

theorem skipDigits_append (h : skipDigits s ≠ []) (x : List UInt8) :
    skipDigits (s ++ x) = skipDigits s ++ x := by
  induction s with
  | nil => exact absurd rfl h
  | cons b s ih =>
    rw [List.cons_append, skipDigits]
    rw [skipDigits] at h ⊢
    by_cases hb : isDigit b = true
    · rw [if_pos hb] at h
      rw [if_pos hb, if_pos hb]
      exact ih h
    · rw [if_neg hb, if_neg hb]
      rfl

theorem run_takeDigits (limit n count : Nat) (hs : s.length ≤ s₀.length) :
    Run isDigit s (takeDigits limit n count s hs).rest := by
  fun_induction takeDigits limit n count s hs with
  | case1 => exact .done
  | case2 => exact .done
  | case3 n count hs b rest hb _ _ ih => exact .step hb ih
  | case4 => exact .done

/-- A digit comes first if one is taken or does not fit. -/
theorem takeDigits_front {limit n count : Nat} {hs : s.length ≤ s₀.length}
    (h : (takeDigits limit n count s hs).full = true ∨
      (takeDigits limit n count s hs).count ≠ count) :
    ∃ b u, s = b :: u ∧ isDigit b = true ∧
      Run isDigit u (skipDigits (takeDigits limit n count s hs).rest) ∧
      ((takeDigits limit n count s hs).full = false →
        Run isDigit u (takeDigits limit n count s hs).rest) := by
  cases s with
  | nil =>
    rw [takeDigits] at h
    rcases h with hfull | hcount
    · cases hfull
    · exact absurd rfl hcount
  | cons b s =>
    rw [takeDigits] at h ⊢
    by_cases hb : isDigit b = true
    · refine ⟨b, s, rfl, hb, ?_⟩
      rw [if_pos hb]
      by_cases hover : overflows limit n (digit b) = true
      · rw [if_pos hover, skipDigits, if_pos hb]
        exact ⟨run_skipDigits s, fun hfull => Bool.noConfusion hfull⟩
      · rw [if_neg hover]
        have hrun := run_takeDigits limit (n * 10 + digit b) (count + 1)
          (Shorter.le (Shorter.of_front hs))
        exact ⟨hrun.trans (run_skipDigits _), fun _ => hrun⟩
    · rw [if_neg hb] at h
      rcases h with hfull | hcount
      · cases hfull
      · exact absurd rfl hcount

theorem takeDigits_followed {s₁ : List UInt8} {limit n count : Nat} {hs : s.length ≤ s₀.length}
    (h : (takeDigits limit n count s hs).rest ≠ []) (hs' : (s ++ x).length ≤ s₁.length) :
    ∃ hle, takeDigits limit n count (s ++ x) hs' =
      ⟨(takeDigits limit n count s hs).value, (takeDigits limit n count s hs).count,
        (takeDigits limit n count s hs).rest ++ x, (takeDigits limit n count s hs).full, hle⟩ := by
  induction s generalizing n count with
  | nil =>
    rw [takeDigits] at h
    exact absurd rfl h
  | cons b s ih =>
    simp only [List.cons_append, takeDigits] at h ⊢
    by_cases hb : isDigit b = true
    · rw [if_pos hb] at h
      simp only [if_pos hb]
      by_cases hover : overflows limit n (digit b) = true
      · simp only [if_pos hover]
        exact ⟨hs', rfl⟩
      · rw [if_neg hover] at h
        simp only [if_neg hover]
        exact ih h _
    · simp only [if_neg hb]
      exact ⟨hs', rfl⟩

/-! ### exponents -/

theorem assembleAt_ok {rest : List UInt8} (h : assembleAt negative m e rest = .ok v)
    (rest' : List UInt8) : assembleAt negative m e rest' = .ok v := by
  unfold assembleAt at h ⊢
  cases ha : assemble negative m e with
  | none =>
    rw [ha] at h
    cases h
  | some y =>
    rw [ha] at h
    exact h

/-- The number that is complete with what stands here, if it is in range. -/
def completed (negative : Bool) (m : Nat) (e : Int) (rest : List UInt8) :
    Except Fault (Number × List UInt8) :=
  (assembleAt negative m e rest).map fun v => (v, rest)

theorem completed_ok (h : completed negative m e s = .ok (v, t)) :
    t = s ∧ ∀ s', completed negative m e s' = .ok (v, s') := by
  obtain ⟨v', hv, heq⟩ := map_ok h
  cases heq
  refine ⟨rfl, fun s' => ?_⟩
  rw [completed, assembleAt_ok hv s']
  rfl

theorem outcome_assembleAt {s₀ : List UInt8} (hs : s.length < s₀.length) :
    outcome (match assembleAt negative m e s with
      | .ok x => .ok (⟨x, s, hs⟩ : Read Number s₀)
      | .error f => .error f) = completed negative m e s := by
  unfold completed
  cases assembleAt negative m e s with
  | error f => rfl
  | ok v => rfl

/-- The digits of an exponent, from after its sign, and the number that they complete. -/
def powered (negative : Bool) (m : Nat) (e : Int) (down : Bool) :
    List UInt8 → Except Fault (Number × List UInt8)
  | [] => .error ⟨.endInValue, []⟩
  | b :: rest =>
    if isDigit b then
      let ds := takeDigits maxExponent (digit b) 1 rest Shorter.same
      if ds.full then
        if m ≠ 0 && !down then .error ⟨.numberRange, ds.rest.tail⟩
        else .ok (.real (if negative then -0.0 else 0.0), skipDigits ds.rest)
      else completed negative m (if down then e - ds.value else e + ds.value) ds.rest
    else .error ⟨.badNumber, rest⟩

theorem outcome_scanExponent (negative : Bool) (m : Nat) (e : Int) (s : List UInt8) :
    outcome (scanExponent negative m e s) =
      match s with
      | b :: rest =>
        if b = 43 then powered negative m e false rest
        else if b = 45 then powered negative m e true rest
        else powered negative m e false (b :: rest)
      | [] => powered negative m e false [] := by
  cases s with
  | nil => rfl
  | cons b rest =>
    dsimp only
    -- whatever the sign, the same is done with the digits
    by_cases hplus : b = 43
    · simp only [scanExponent, if_pos hplus]
      cases rest with
      | nil => rfl
      | cons c rest =>
        simp only [powered]
        split_ifs <;> first | rfl | exact outcome_assembleAt _
    · by_cases hminus : b = 45
      · simp only [scanExponent, if_neg hplus, if_pos hminus]
        cases rest with
        | nil => rfl
        | cons c rest =>
          simp only [powered]
          split_ifs <;> first | rfl | exact outcome_assembleAt _
      · simp only [scanExponent, if_neg hplus, if_neg hminus, powered]
        split_ifs <;> first | rfl | exact outcome_assembleAt _

theorem Power.ne_nil (h : Power s t) (ht : t ≠ []) : s ≠ [] := by
  cases h with
  | none => exact ht
  | some => exact List.cons_ne_nil _ _

theorem Places.ne_nil (h : Places s t) (ht : t ≠ []) : s ≠ [] := by
  cases h with
  | none => exact ht
  | some => exact List.cons_ne_nil _ _

theorem powered_found {down : Bool} (h : powered negative m e down s = .ok (v, t)) :
    ∃ b u, s = b :: u ∧ isDigit b = true ∧ Run isDigit u t ∧
      (t ≠ [] → ∀ x, powered negative m e down (s ++ x) = .ok (v, t ++ x)) := by
  cases s with
  | nil => cases h
  | cons b s =>
    rw [powered] at h
    by_cases hb : isDigit b = true
    · have hrun := run_takeDigits maxExponent (digit b) 1 (Shorter.same (s := s))
      rw [if_pos hb] at h
      dsimp only at h
      refine ⟨b, s, rfl, hb, ?_⟩
      by_cases hfull : (takeDigits maxExponent (digit b) 1 s Shorter.same).full = true
      · rw [if_pos hfull] at h
        by_cases hrange : (decide (m ≠ 0) && !down) = true
        · rw [if_pos hrange] at h
          cases h
        · rw [if_neg hrange] at h
          cases h
          refine ⟨hrun.trans (run_skipDigits _), fun hne x => ?_⟩
          have hrest : (takeDigits maxExponent (digit b) 1 s Shorter.same).rest ≠ [] := by
            intro hnil
            rw [hnil] at hne
            exact hne rfl
          obtain ⟨_, hdigits⟩ := takeDigits_followed hrest (Shorter.same (s := s ++ x))
          show powered negative m e down (b :: (s ++ x)) = _
          rw [powered, if_pos hb, hdigits]
          dsimp only
          rw [if_pos hfull, if_neg hrange, skipDigits_append hne]
      · rw [if_neg hfull] at h
        obtain ⟨rfl, hall⟩ := completed_ok h
        refine ⟨hrun, fun hne x => ?_⟩
        obtain ⟨_, hdigits⟩ := takeDigits_followed hne (Shorter.same (s := s ++ x))
        show powered negative m e down (b :: (s ++ x)) = _
        rw [powered, if_pos hb, hdigits]
        dsimp only
        rw [if_neg hfull]
        exact hall _
    · rw [if_neg hb] at h
      cases h

theorem scanExponent_found (h : outcome (scanExponent negative m e s) = .ok (v, t)) :
    (∃ b u, Sign s (b :: u) ∧ isDigit b = true ∧ Run isDigit u t) ∧
      (t ≠ [] → ∀ x, outcome (scanExponent negative m e (s ++ x)) = .ok (v, t ++ x)) := by
  rw [outcome_scanExponent] at h
  cases s with
  | nil => cases h
  | cons b s =>
    dsimp only at h
    simp only [List.cons_append, outcome_scanExponent]
    by_cases hplus : b = 43
    · subst hplus
      rw [if_pos rfl] at h
      obtain ⟨c, u, rfl, hc, hrun, hmore⟩ := powered_found h
      exact ⟨⟨c, u, .plus, hc, hrun⟩, hmore⟩
    · by_cases hminus : b = 45
      · subst hminus
        obtain ⟨c, u, rfl, hc, hrun, hmore⟩ := powered_found h
        exact ⟨⟨c, u, .minus, hc, hrun⟩, hmore⟩
      · rw [if_neg hplus, if_neg hminus] at h
        obtain ⟨c, u, hs, hc, hrun, hmore⟩ := powered_found h
        simp only [if_neg hplus, if_neg hminus]
        exact ⟨⟨c, u, hs ▸ .none, hc, hrun⟩, hmore⟩

section
variable {hs : (b :: s).length < s₀.length}

theorem outcome_scanTail_power (he : (b = 101 || b = 69) = true) :
    outcome (scanTail negative m e (b :: s) hs) = outcome (scanExponent negative m e s) := by
  rw [scanTail, if_pos he, outcome_widen]

theorem outcome_scanTail_none (he : ¬ (b = 101 || b = 69) = true) :
    outcome (scanTail negative m e (b :: s) hs) = completed negative m e (b :: s) := by
  rw [scanTail, if_neg he]
  exact outcome_assembleAt hs

end

theorem scanTail_found {hs : s.length < s₀.length}
    (h : outcome (scanTail negative m e s hs) = .ok (v, t)) :
    Power s t ∧ (t ≠ [] → ∀ x s₁ (hs' : (s ++ x).length < s₁.length),
      outcome (scanTail negative m e (s ++ x) hs' : Except Fault (Read Number s₁)) =
        .ok (v, t ++ x)) := by
  cases s with
  | nil =>
    have h : completed negative m e [] = .ok (v, t) := (outcome_assembleAt hs).symm.trans h
    obtain ⟨rfl, _⟩ := completed_ok h
    exact ⟨.none, fun hne => absurd rfl hne⟩
  | cons b s =>
    by_cases he : (b = 101 || b = 69) = true
    · rw [outcome_scanTail_power he] at h
      obtain ⟨⟨c, u, hsign, hc, hrun⟩, hmore⟩ := scanExponent_found h
      refine ⟨.some (by simpa using he) hsign hc hrun, fun hne x s₁ hs' => ?_⟩
      exact (outcome_scanTail_power he).trans (hmore hne x)
    · rw [outcome_scanTail_none he] at h
      obtain ⟨rfl, hall⟩ := completed_ok h
      refine ⟨.none, fun _ x s₁ hs' => ?_⟩
      exact (outcome_scanTail_none he).trans (hall _)

theorem skipDigits_ne_nil (h : skipDigits s ≠ []) : s ≠ [] := by
  rintro rfl
  exact h rfl

/-! ### numbers -/

theorem scanPlaces_found {hs : s.length < s₀.length}
    (h : outcome (scanPlaces negative m e s hs) = .ok (v, t)) :
    (∃ u, Places (46 :: s) u ∧ Power u t) ∧
      (t ≠ [] → ∀ x s₁ (hs' : (s ++ x).length < s₁.length),
        outcome (scanPlaces negative m e (s ++ x) hs' : Except Fault (Read Number s₁)) =
          .ok (v, t ++ x)) := by
  unfold scanPlaces at h ⊢
  dsimp only at h ⊢
  by_cases hfull : (takeDigits maxWord m 0 s Shorter.same).full = true
  · rw [if_pos hfull] at h
    obtain ⟨b, u, rfl, hb, hrun, _⟩ := takeDigits_front (.inl hfull)
    obtain ⟨hpower, hmore⟩ := scanTail_found h
    refine ⟨⟨_, .some hb hrun, hpower⟩, fun hne x s₁ hs' => ?_⟩
    have hrest := hpower.ne_nil hne
    obtain ⟨_, hdigits⟩ := takeDigits_followed (skipDigits_ne_nil hrest)
      (Shorter.same (s := (b :: u) ++ x))
    simp only [hdigits, if_pos hfull, skipDigits_append hrest]
    exact hmore hne x s₁ _
  · rw [if_neg hfull] at h
    by_cases hcount : (takeDigits maxWord m 0 s Shorter.same).count = 0
    · rw [if_pos hcount] at h
      split at h
      · cases h
      · cases h
    · rw [if_neg hcount] at h
      obtain ⟨b, u, rfl, hb, _, hrun⟩ := takeDigits_front (.inr hcount)
      obtain ⟨hpower, hmore⟩ := scanTail_found h
      refine ⟨⟨_, .some hb (hrun (eq_false_of_ne_true hfull)), hpower⟩, fun hne x s₁ hs' => ?_⟩
      obtain ⟨_, hdigits⟩ := takeDigits_followed (hpower.ne_nil hne)
        (Shorter.same (s := (b :: u) ++ x))
      simp only [hdigits, if_neg hfull, if_neg hcount]
      exact hmore hne x s₁ _

theorem scanAfterWhole_found {full : Bool} {dropped : Nat} {hs : s.length < s₀.length}
    (h : outcome (scanAfterWhole negative m full dropped s hs) = .ok (v, t)) :
    (∃ u, Places s u ∧ Power u t) ∧
      (t ≠ [] → ∀ x s₁ (hs' : (s ++ x).length < s₁.length),
        outcome (scanAfterWhole negative m full dropped (s ++ x) hs' :
          Except Fault (Read Number s₁)) = .ok (v, t ++ x)) := by
  cases s with
  | nil =>
    rw [scanAfterWhole] at h
    by_cases hfull : full = true
    · rw [if_pos hfull] at h
      obtain ⟨hpower, _⟩ := scanTail_found h
      cases hpower
      exact ⟨⟨[], .none, .none⟩, fun hne => absurd rfl hne⟩
    · rw [if_neg hfull] at h
      cases h
      exact ⟨⟨[], .none, .none⟩, fun hne => absurd rfl hne⟩
  | cons b s =>
    simp only [List.cons_append]
    rw [scanAfterWhole] at h
    by_cases hpoint : b = 46
    · rw [if_pos hpoint] at h
      subst hpoint
      obtain ⟨hplaces, hmore⟩ := scanPlaces_found h
      refine ⟨hplaces, fun hne x s₁ hs' => ?_⟩
      rw [scanAfterWhole, if_pos rfl]
      exact hmore hne x s₁ _
    · rw [if_neg hpoint] at h
      by_cases htail : (b = 101 || b = 69 || full) = true
      · rw [if_pos htail] at h
        obtain ⟨hpower, hmore⟩ := scanTail_found h
        refine ⟨⟨_, .none, hpower⟩, fun hne x s₁ hs' => ?_⟩
        rw [scanAfterWhole, if_neg hpoint, if_pos htail]
        exact hmore hne x s₁ hs'
      · rw [if_neg htail] at h
        cases h
        refine ⟨⟨_, .none, .none⟩, fun hne x s₁ hs' => ?_⟩
        rw [scanAfterWhole, if_neg hpoint, if_neg htail]
        rfl

/-- **A number that was read is well formed, and what is put behind what follows it changes
nothing.** -/
theorem scanNumber_found (h : outcome (scanNumber negative s) = .ok (v, t)) :
    Numeral s t ∧ (t ≠ [] → ∀ x, outcome (scanNumber negative (s ++ x)) = .ok (v, t ++ x)) := by
  cases s with
  | nil => cases h
  | cons b s =>
    rw [scanNumber.eq_def] at h
    dsimp only at h
    by_cases hzero : b = 48
    · rw [if_pos hzero] at h
      subst hzero
      cases s with
      | nil =>
        -- a zero with nothing behind it leaves nothing
        cases h
        exact ⟨.zero .none .none, fun hne => absurd rfl hne⟩
      | cons c s =>
        dsimp only at h
        by_cases hc : isDigit c = true
        · rw [if_pos hc] at h
          cases h
        · rw [if_neg hc] at h
          obtain ⟨⟨u, hplaces, hpower⟩, hmore⟩ := scanAfterWhole_found h
          refine ⟨.zero hplaces hpower, fun hne x => ?_⟩
          show outcome (scanNumber negative (48 :: c :: (s ++ x))) = _
          rw [scanNumber.eq_def]
          simp only [if_true, if_neg hc]
          exact hmore hne x _ _
    · rw [if_neg hzero] at h
      by_cases hb : isDigit b = true
      · rw [if_pos hb] at h
        have hrun := run_takeDigits maxWord (digit b) 1 (Shorter.same (s := s))
        by_cases hfull : (takeDigits maxWord (digit b) 1 s Shorter.same).full = true
        · rw [if_pos hfull] at h
          obtain ⟨⟨u, hplaces, hpower⟩, hmore⟩ := scanAfterWhole_found h
          have hall := hrun.trans (run_skipDigits _)
          refine ⟨.more hb hzero hall hplaces hpower, fun hne x => ?_⟩
          have hskip := hplaces.ne_nil (hpower.ne_nil hne)
          obtain ⟨_, hdigits⟩ := takeDigits_followed (skipDigits_ne_nil hskip)
            (Shorter.same (s := s ++ x))
          show outcome (scanNumber negative (b :: (s ++ x))) = _
          rw [scanNumber.eq_def]
          simp only [if_neg hzero, if_pos hb, hdigits, if_pos hfull, skipDigits_append hskip,
            List.length_append, Nat.add_sub_add_right]
          exact hmore hne x _ _
        · rw [if_neg hfull] at h
          obtain ⟨⟨u, hplaces, hpower⟩, hmore⟩ := scanAfterWhole_found h
          refine ⟨.more hb hzero hrun hplaces hpower, fun hne x => ?_⟩
          obtain ⟨_, hdigits⟩ := takeDigits_followed (hplaces.ne_nil (hpower.ne_nil hne))
            (Shorter.same (s := s ++ x))
          show outcome (scanNumber negative (b :: (s ++ x))) = _
          rw [scanNumber.eq_def]
          simp only [if_neg hzero, if_pos hb, hdigits, if_neg hfull]
          exact hmore hne x _ _
      · rw [if_neg hb] at h
        cases h

/-! ### passing over -/

theorem skipExponent_power {a : After s} (h : skipExponent s = .ok a) :
    ∃ b u, Sign s (b :: u) ∧ isDigit b = true ∧ Run isDigit u a.1 := by
  have hdigits : ∀ {b : UInt8} {u : List UInt8} (hu : (b :: u).length ≤ s.length),
      (if isDigit b then .ok ⟨skipDigits u, skipDigits_lt hu⟩ else .error ⟨.badNumber, u⟩ :
        Except Fault (After s)) = .ok a → isDigit b = true ∧ Run isDigit u a.1 := by
    intro b u hu h
    by_cases hb : isDigit b = true
    · rw [if_pos hb] at h
      cases h
      exact ⟨hb, run_skipDigits u⟩
    · rw [if_neg hb] at h
      cases h
  unfold skipExponent at h
  cases s with
  | nil => cases h
  | cons b s =>
    dsimp only at h
    by_cases hsign : (b = 43 || b = 45) = true
    · rw [if_pos hsign] at h
      cases s with
      | nil => cases h
      | cons c s =>
        obtain ⟨hc, hrun⟩ := hdigits Shorter.tail_le h
        rw [Bool.or_eq_true, decide_eq_true_iff, decide_eq_true_iff] at hsign
        rcases hsign with rfl | rfl
        · exact ⟨c, s, .plus, hc, hrun⟩
        · exact ⟨c, s, .minus, hc, hrun⟩
    · rw [if_neg hsign] at h
      obtain ⟨hb, hrun⟩ := hdigits Shorter.same h
      exact ⟨b, s, .none, hb, hrun⟩

theorem skipTail_power {hs : s.length < s₀.length} {a : After s₀} (h : skipTail s hs = .ok a) :
    Power s a.1 := by
  cases s with
  | nil =>
    cases h
    exact .none
  | cons b s =>
    rw [skipTail] at h
    by_cases he : (b = 101 || b = 69) = true
    · rw [if_pos he] at h
      obtain ⟨a', ha, rfl⟩ := map_ok h
      obtain ⟨c, u, hsign, hc, hrun⟩ := skipExponent_power ha
      exact .some (by simpa using he) hsign hc hrun
    · rw [if_neg he] at h
      cases h
      exact .none

theorem skipPlaces_places {hs : s.length < s₀.length} {a : After s₀}
    (h : skipPlaces s hs = .ok a) : ∃ u, Places s u ∧ Power u a.1 := by
  cases s with
  | nil =>
    cases h
    exact ⟨_, .none, .none⟩
  | cons b s =>
    rw [skipPlaces.eq_def] at h
    dsimp only at h
    by_cases hpoint : b = 46
    · rw [if_pos hpoint] at h
      subst hpoint
      cases s with
      | nil => cases h
      | cons c s =>
        dsimp only at h
        by_cases hc : isDigit c = true
        · rw [if_pos hc] at h
          exact ⟨_, .some hc (run_skipDigits s), skipTail_power h⟩
        · rw [if_neg hc] at h
          cases h
    · rw [if_neg hpoint] at h
      exact ⟨_, .none, skipTail_power h⟩

theorem skipNumber_numeral {a : After s} (h : skipNumber s = .ok a) : Numeral s a.1 := by
  cases s with
  | nil => cases h
  | cons b s =>
    rw [skipNumber.eq_def] at h
    dsimp only at h
    by_cases hzero : b = 48
    · rw [if_pos hzero] at h
      subst hzero
      cases s with
      | nil =>
        cases h
        exact .zero .none .none
      | cons c s =>
        dsimp only at h
        by_cases hc : isDigit c = true
        · rw [if_pos hc] at h
          cases h
        · rw [if_neg hc] at h
          obtain ⟨u, hplaces, hpower⟩ := skipPlaces_places h
          exact .zero hplaces hpower
    · rw [if_neg hzero] at h
      by_cases hb : isDigit b = true
      · rw [if_pos hb] at h
        obtain ⟨u, hplaces, hpower⟩ := skipPlaces_places h
        exact .more hb hzero (run_skipDigits s) hplaces hpower
      · rw [if_neg hb] at h
        cases h

end TelemetryGate.Json
