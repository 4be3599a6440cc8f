import TelemetryGate.Json.Skip
import TelemetryGate.Proofs.Json.Reads
import TelemetryGate.Proofs.Json.Record
import TelemetryGate.Proofs.Json.Text

/-!
# Texts as text has them

* `Inside.skip`        a text is passed over, whatever bytes are in it;
* `Inside.text_rest`   a text that is read is read to its end;
* `Quotes.reads`       a text is read, in whatever way its characters are written.
-/

namespace TelemetryGate.Json

variable {s₀ s t : List UInt8} {b : UInt8} {c : Char}

/-! ### escapes -/

theorem letterEscape?_u : letterEscape? 117 = none := by decide

theorem scanHex_some {a b c d : UInt8} {n : Nat} (h : codeUnit? a b c d = some n)
    (s : List UInt8) : ∃ h', scanHex (a :: b :: c :: d :: s) = .ok ⟨n, s, h'⟩ := by
  refine ⟨by simp only [List.length_cons]; omega, ?_⟩
  unfold codeUnit? at h
  unfold scanHex
  split at h
  · rename_i ha hb hc hd
    cases h
    simp only [ha, hb, hc, hd]
  · cases h

theorem skipEscape_unit {a b c d : UInt8} (h : (codeUnit? a b c d).isSome = true)
    (s : List UInt8) : ∃ h', skipEscape (117 :: a :: b :: c :: d :: s) = .ok ⟨s, h'⟩ := by
  obtain ⟨n, hn⟩ := Option.isSome_iff_exists.mp h
  obtain ⟨h', hscan⟩ := scanHex_some hn s
  refine ⟨Shorter.cons_of_lt h', ?_⟩
  simp only [skipEscape, letterEscape?_u, hscan]
  rfl

theorem skipEscape_letter (h : (letterEscape? b).isSome = true) (s : List UInt8) :
    skipEscape (b :: s) = .ok ⟨s, Shorter.tail⟩ := by
  rw [skipEscape, if_pos h]

/-! ### passing over -/

theorem skipText_escape {e : List UInt8} {h : s.length < e.length}
    (he : skipEscape e = .ok ⟨s, h⟩) (hs : (92 :: e).length ≤ s₀.length) :
    ∃ hs' : s.length ≤ s₀.length, skipText (92 :: e) hs = skipText s hs' := by
  refine ⟨Shorter.both_le h (Shorter.of_front hs), ?_⟩
  rw [skipText, if_neg (by decide), if_pos rfl, he]

/-- **A text is passed over, whatever bytes are in it.** -/
theorem Inside.skip (h : Inside s t) (hs : s.length ≤ s₀.length) :
    ∃ h', skipText s hs = .ok ⟨t, h'⟩ := by
  induction h with
  | close =>
    refine ⟨Shorter.of_front hs, ?_⟩
    rw [skipText, if_pos rfl]
  | @plain b s t h _ ih =>
    obtain ⟨hquote, hslash, hlow⟩ := h.cases
    obtain ⟨h', hskip⟩ := ih (Shorter.le (Shorter.of_front hs))
    refine ⟨h', ?_⟩
    rw [skipText, if_neg hquote, if_neg hslash, if_neg hlow]
    exact hskip
  | @letter b s t h _ ih =>
    obtain ⟨hs', hstep⟩ := skipText_escape (skipEscape_letter h s) hs
    obtain ⟨h', hskip⟩ := ih hs'
    exact ⟨h', hstep.trans hskip⟩
  | @unit a b c d s t h _ ih =>
    obtain ⟨_, hescape⟩ := skipEscape_unit h s
    obtain ⟨hs', hstep⟩ := skipText_escape hescape hs
    obtain ⟨h', hskip⟩ := ih hs'
    exact ⟨h', hstep.trans hskip⟩

/-! ### one step of a scan -/

theorem scanBytes_plain (acc : List UInt8) (h : Plain b) (hs : (b :: s).length ≤ s₀.length) :
    ∃ hs' : s.length ≤ s₀.length, scanBytes acc (b :: s) hs = scanBytes (b :: acc) s hs' := by
  obtain ⟨hquote, hslash, hlow⟩ := h.cases
  refine ⟨Shorter.le (Shorter.of_front hs), ?_⟩
  rw [scanBytes, if_neg hquote, if_neg hslash, if_neg hlow]

theorem scanBytes_escape (acc : List UInt8) {e : List UInt8} {h : s.length < e.length}
    (he : scanEscape e = .ok ⟨c, s, h⟩) (hs : (92 :: e).length ≤ s₀.length) :
    ∃ hs' : s.length ≤ s₀.length,
      scanBytes acc (92 :: e) hs = scanBytes ((Utf8.char c).reverse ++ acc) s hs' := by
  refine ⟨Shorter.both_le h (Shorter.of_front hs), ?_⟩
  rw [scanBytes, if_neg (by decide), if_pos rfl, he, ← Utf8.encode_toString]

theorem scanEscape_letter (h : letterEscape? b = some c) :
    scanEscape (b :: s) = .ok ⟨c, s, Shorter.tail⟩ := by
  rw [scanEscape, h]

theorem scanBytes_quote (acc : List UInt8) (hs : (34 :: s).length ≤ s₀.length) :
    scanBytes acc (34 :: s) hs = .ok ⟨acc, s, Shorter.of_front hs⟩ := by
  rw [scanBytes, if_pos rfl]

/-! ### reading -/

theorem expectInPair_ok {c : Char} {r : Read Unit s} (h : expectInPair c s = .ok r) :
    s = c.toUInt8 :: r.rest := by
  cases s with
  | nil => cases h
  | cons b s =>
    rw [expectInPair] at h
    by_cases hb : b = c.toUInt8
    · rw [if_pos hb] at h
      cases h
      rw [hb]
    · rw [if_neg hb] at h
      cases h

/-- A code unit is read with one group of digits, or with two that an escape divides. -/
theorem scanUnit_ok {r : Read Char s} (h : scanUnit s = .ok r) :
    ∃ n u hu, scanHex s = .ok ⟨n, u, hu⟩ ∧
      (r.rest = u ∨ ∃ v m hv, u = 92 :: 117 :: v ∧ scanHex v = .ok ⟨m, r.rest, hv⟩) := by
  unfold scanUnit at h
  obtain ⟨⟨n, u, hu⟩, hscan, h⟩ := bind_ok h
  refine ⟨n, u, hu, hscan, ?_⟩
  dsimp only at h
  by_cases htrail : isTrailing n = true
  · rw [if_pos htrail] at h
    cases h
  rw [if_neg htrail] at h
  by_cases hlead : isLeading n = true
  · rw [if_pos hlead] at h
    obtain ⟨slash, hslash, h⟩ := bind_ok h
    obtain ⟨letter, hletter, h⟩ := bind_ok h
    obtain ⟨⟨m, v, hv⟩, hsecond, h⟩ := bind_ok h
    dsimp only at h
    by_cases hjoin : isTrailing m = true
    · rw [if_pos hjoin] at h
      have hrest : v = r.rest := congrArg Read.rest (Except.ok.inj h)
      subst hrest
      have hpair : u = 92 :: 117 :: letter.rest :=
        (expectInPair_ok hslash).trans (congrArg _ (expectInPair_ok hletter))
      exact .inr ⟨letter.rest, m, hv, hpair, hsecond⟩
    · rw [if_neg hjoin] at h
      cases h
  · rw [if_neg hlead] at h
    cases h
    exact .inl rfl

theorem Inside.unit_rest {n : Nat} {u : List UInt8} {hu}
    (h : Inside (92 :: 117 :: s) t) (hscan : scanHex s = .ok ⟨n, u, hu⟩) : Inside u t := by
  cases h with
  | plain h => exact absurd rfl h.2.2
  | letter h => exact absurd h (by decide)
  | @unit a b c d s t h rest =>
    obtain ⟨m, hm⟩ := Option.isSome_iff_exists.mp h
    obtain ⟨_, hscan'⟩ := scanHex_some hm s
    cases hscan'.symm.trans hscan
    exact rest

/-- Where an escape that is read ends, the text goes on. -/
theorem Inside.escape {e : List UInt8} (h : Inside (92 :: e) t) {r : Read Char e}
    (hr : scanEscape e = .ok r) : Inside r.rest t := by
  cases h with
  | plain h => exact absurd rfl h.2.2
  | @letter b s t h rest =>
    obtain ⟨c, hc⟩ := Option.isSome_iff_exists.mp h
    rw [scanEscape_letter hc] at hr
    cases hr
    exact rest
  | @unit a b c d s t h rest =>
    rw [scanEscape, letterEscape?_u] at hr
    obtain ⟨r', hunit, rfl⟩ : ∃ r', scanUnit (a :: b :: c :: d :: s) = .ok r' ∧
        Read.widen Shorter.tail_le r' = r := map_ok hr
    obtain ⟨n, u, hu, hscan, hrest⟩ := scanUnit_ok hunit
    have hu' : Inside u t := Inside.unit_rest (.unit h rest) hscan
    show Inside r'.rest t
    rcases hrest with heq | ⟨v, m, hv, rfl, hsecond⟩
    · rw [heq]
      exact hu'
    · exact hu'.unit_rest hsecond

theorem Inside.bytes_rest (h : Inside s t) {acc : List UInt8} {hs : s.length ≤ s₀.length}
    {r : Read (List UInt8) s₀} (hr : scanBytes acc s hs = .ok r) : r.rest = t := by
  fun_induction scanBytes acc s hs with
  | case1 => cases hr
  | case2 acc s hs rest =>
    cases hr
    cases h with
    | close => rfl
    | plain h => exact absurd rfl h.2.1
  | case3 acc e c after hafter hescape _ _ _ _ ih => exact ih (h.escape hescape) hr
  | case4 => cases hr
  | case5 => cases hr
  | case6 acc b rest _ _ hquote hslash _ _ ih =>
    cases h with
    | close => exact absurd rfl hquote
    | plain _ h => exact ih h hr
    | letter => exact absurd rfl hslash
    | unit => exact absurd rfl hslash

/-- **A text that is read is read to its end.** -/
theorem Inside.text_rest (h : Inside s t) {r : Read String s} (hr : scanText s = .ok r) :
    r.rest = t := by
  unfold scanText at hr
  obtain ⟨bytes, hscan, hr⟩ := bind_ok hr
  have hrest := h.bytes_rest hscan
  dsimp only at hr
  cases hdecode : Utf8.decode? bytes.value.reverse with
  | none =>
    rw [hdecode] at hr
    cases hr
  | some text =>
    rw [hdecode] at hr
    cases hr
    exact hrest

/-! ### what is read -/

theorem scanEscape_of_unit {s : List UInt8} {c : Char} {h : t.length < s.length}
    (hunit : scanUnit s = .ok ⟨c, t, h⟩) :
    scanEscape (117 :: s) = .ok ⟨c, t, Shorter.cons_of_lt h⟩ := by
  have hletter : (117 : UInt8) = 'u'.toUInt8 := rfl
  rw [scanEscape, letterEscape?_u]
  simp only [if_pos hletter, hunit]
  rfl

theorem scanUnit_single {a b c d : UInt8} {n : Nat} (h : codeUnit? a b c d = some n)
    (single : isLeading n = false ∧ isTrailing n = false) (s : List UInt8) :
    ∃ h', scanUnit (a :: b :: c :: d :: s) = .ok ⟨Char.ofNat n, s, h'⟩ := by
  obtain ⟨h', hscan⟩ := scanHex_some h s
  refine ⟨h', ?_⟩
  rw [scanUnit, hscan]
  simp only [bind, Except.bind, single.1, single.2]
  rfl

theorem scanUnit_pair {a b c d a' b' c' d' : UInt8} {m n : Nat} (h : codeUnit? a b c d = some m)
    (h' : codeUnit? a' b' c' d' = some n) (lead : isLeading m = true)
    (trail : isTrailing n = true) (s : List UInt8) :
    ∃ hs, scanUnit (a :: b :: c :: d :: 92 :: 117 :: a' :: b' :: c' :: d' :: s) =
      .ok ⟨joinSurrogates m n, s, hs⟩ := by
  obtain ⟨_, hfirst⟩ := scanHex_some h (92 :: 117 :: a' :: b' :: c' :: d' :: s)
  obtain ⟨_, hsecond⟩ := scanHex_some h' s
  have hslash : ∀ s, expectInPair '\\' (92 :: s) = .ok ⟨(), s, Shorter.tail⟩ := fun _ => rfl
  have hletter : ∀ s, expectInPair 'u' (117 :: s) = .ok ⟨(), s, Shorter.tail⟩ := fun _ => rfl
  -- a code unit that leads does not trail
  have hnot : isTrailing m = false := by
    unfold isLeading at lead
    unfold isTrailing
    rw [Bool.and_eq_true, decide_eq_true_iff, decide_eq_true_iff] at lead
    rw [decide_eq_false (by omega), Bool.false_and]
  refine ⟨by simp only [List.length_cons]; omega, ?_⟩
  rw [scanUnit, hfirst]
  simp only [bind, Except.bind, hnot, lead, hslash, hletter, hsecond, trail, if_true,
    Bool.false_eq_true, if_false]
  rfl

/-- An escape is read, and then the rest of the text. -/
theorem scanBytes_after {c : Char} {bs e : List UInt8} {h : s.length < e.length}
    (he : scanEscape e = .ok ⟨c, s, h⟩)
    (hrest : ∀ acc (hs : s.length ≤ s₀.length),
      ∃ h', scanBytes acc s hs = .ok ⟨bs.reverse ++ acc, t, h'⟩)
    (acc : List UInt8) (hs : (92 :: e).length ≤ s₀.length) :
    ∃ h', scanBytes acc (92 :: e) hs = .ok ⟨(Utf8.char c ++ bs).reverse ++ acc, t, h'⟩ := by
  obtain ⟨hs', hstep⟩ := scanBytes_escape acc he hs
  obtain ⟨h', hrest⟩ := hrest _ hs'
  refine ⟨h', ?_⟩
  rw [hstep, hrest, List.reverse_append, List.append_assoc]

theorem Spells.scan {bs : List UInt8} (h : Spells bs s t) (acc : List UInt8)
    (hs : s.length ≤ s₀.length) :
    ∃ h', scanBytes acc s hs = .ok ⟨bs.reverse ++ acc, t, h'⟩ := by
  induction h generalizing acc with
  | close => exact ⟨Shorter.of_front hs, scanBytes_quote acc hs⟩
  | @plain b bs s t h _ ih =>
    obtain ⟨hs', hstep⟩ := scanBytes_plain acc h hs
    obtain ⟨h', hrest⟩ := ih (b :: acc) hs'
    refine ⟨h', ?_⟩
    rw [hstep, hrest, List.reverse_cons, List.append_assoc]
    rfl
  | letter h _ ih => exact scanBytes_after (scanEscape_letter h) ih acc hs
  | unit h single _ ih =>
    obtain ⟨_, hunit⟩ := scanUnit_single h single _
    exact scanBytes_after (scanEscape_of_unit hunit) ih acc hs
  | pair h h' lead trail _ ih =>
    obtain ⟨_, hunit⟩ := scanUnit_pair h h' lead trail _
    exact scanBytes_after (scanEscape_of_unit hunit) ih acc hs

/-- **A text is read, in whatever way its characters are written.** -/
theorem Quotes.reads {text : String} (h : Quotes text s t) : Reads scanText s text t := by
  obtain ⟨h', hscan⟩ := Spells.scan h [] Shorter.same
  have hback : Utf8.decode? (((Utf8.encode text).reverse ++ []).reverse) = some text := by
    rw [List.append_nil, List.reverse_reverse, Utf8.decode?_encode]
  refine ⟨h', ?_⟩
  unfold scanText
  rw [hscan]
  simp only [bind, Except.bind, hback]
  rfl

end TelemetryGate.Json
