import TelemetryGate.Proofs.Url.Domain
import TelemetryGate.Proofs.Utf8

/-!
# Blanks in an authority

A domain name does not hold blanks, an address in brackets ends with the bracket, and a port holds
digits only: so no authority has blanks at its end.

* `readHost_blanks`, `readPort_blanks`   no host and no port;
* `readAuthority_blanks`                 no authority;
* `keepsAuthority_iff`                   which urls keep their authority, then.
-/

namespace TelemetryGate.Url

/-! ### hosts and ports -/

/-- What is no percent sign and no digit of base sixteen is left where it is. -/
theorem mem_decodeBytes {bytes : List UInt8} {b : UInt8} (hpercent : b ≠ 37)
    (hdigit : Text.hexValue? (Char.ofNat b.toNat) = none) (h : b ∈ bytes) :
    b ∈ decodeBytes bytes := by
  fun_induction decodeBytes bytes with
  | case1 a c rest x y hy hx ih =>
    rcases List.mem_cons.mp h with rfl | h
    · exact absurd rfl hpercent
    · rcases List.mem_cons.mp h with rfl | h
      · cases hdigit.symm.trans hx
      · rcases List.mem_cons.mp h with rfl | h
        · cases hdigit.symm.trans hy
        · exact List.mem_cons_of_mem _ (ih h)
  | case2 a c rest _ ih =>
    rcases List.mem_cons.mp h with rfl | h
    · exact absurd rfl hpercent
    · exact List.mem_cons_of_mem _ (ih h)
  | case3 a rest _ ih =>
    rcases List.mem_cons.mp h with rfl | h
    · exact List.mem_cons_self
    · exact List.mem_cons_of_mem _ (ih h)
  | case4 => exact h

section
variable {cs blanks : List Char} (hb : ∀ c ∈ blanks, c.toNat ≤ 0x20)
include hb

/-- A host does not end in blanks. -/
theorem readHost_blanks (hne : blanks ≠ []) (cs : List Char) :
    ∃ e, readHost true (cs ++ blanks) = .error e := by
  unfold readHost
  by_cases hbracket : (cs ++ blanks).head? = some '['
  · rw [if_pos hbracket]
    unfold readBracketed
    have hlast : (cs ++ blanks).getLast? ≠ some ']' := by
      rw [List.getLast?_append_of_ne_nil _ hne]
      intro h
      exact absurd (hb _ (List.mem_of_getLast? h)) (by decide)
    exact ⟨.v6, if_neg hlast⟩
  · obtain ⟨c, hc⟩ := List.exists_mem_of_ne_nil blanks hne
    have hblank := hb c hc
    have hbyte : (UInt8.ofNat c.toNat).toNat = c.toNat :=
      UInt8.toNat_ofNat_of_lt' (Nat.lt_of_le_of_lt hblank (by decide))
    have hmem : UInt8.ofNat c.toNat ∈ Utf8.encode (String.ofList (cs ++ blanks)) := by
      rw [Utf8.encode_ofList]
      refine List.mem_flatMap.mpr ⟨c, List.mem_append_right cs hc, ?_⟩
      rw [Utf8.char_of_lt (Nat.lt_of_le_of_lt hblank (by decide))]
      exact List.mem_singleton_self _
    have hdecoded : UInt8.ofNat c.toNat ∈
        decodeBytes (Utf8.encode (String.ofList (cs ++ blanks))) := by
      refine mem_decodeBytes (fun h => ?_) ?_ hmem
      · rw [h] at hbyte
        exact absurd (hbyte ▸ hblank) (by decide)
      · rw [hbyte, Char.ofNat_toNat]
        exact Option.isNone_iff_eq_none.mp (of_lt (b := 33)
          (P := fun c => (Text.hexValue? c).isNone) (by decide) (Nat.lt_succ_of_le hblank))
    have hnone : ((Utf8.decode? (decodeBytes (Utf8.encode (String.ofList (cs ++ blanks))))).bind
        fun s => Domain.toAscii? s.toList) = none := by
      refine Option.bind_eq_none_iff.mpr fun s hs => ?_
      obtain ⟨d, hd, heq⟩ := Utf8.exists_of_decode? hs hdecoded (by omega)
      exact Domain.toAscii?_of_blank (by omega) hd
    rw [if_neg hbracket, if_pos rfl, hnone]
    exact ⟨.domain, rfl⟩

/-- A port does not either. -/
theorem readPort_blanks (hne : blanks ≠ []) (hcs : '\\' ∉ cs) (scheme : String) :
    ∃ e, readPort scheme (cs ++ blanks) = .error e := by
  have hstop : !((cs ++ blanks).dropWhile Char.isDigit).isEmpty &&
      ((cs ++ blanks).dropWhile Char.isDigit).head? ≠ some '\\' := by
    cases hd : (cs ++ blanks).dropWhile Char.isDigit with
    | nil =>
      obtain ⟨b, hmem⟩ := List.exists_mem_of_ne_nil blanks hne
      have hdigit := List.dropWhile_eq_nil_iff.mp hd b (List.mem_append_right cs hmem)
      have hno := of_lt (b := 33) (P := fun c => !c.isDigit) (by decide)
        (Nat.lt_succ_of_le (hb b hmem))
      simp [hdigit] at hno
    | cons d more =>
      have hmem : d ∈ cs ++ blanks :=
        (List.dropWhile_suffix Char.isDigit).subset (hd ▸ List.mem_cons_self)
      have hslash : d ≠ '\\' := by
        rintro rfl
        rcases List.mem_append.mp hmem with hmem | hmem
        · exact hcs hmem
        · exact absurd (hb _ hmem) (by decide)
      simp [hslash]
  unfold readPort
  dsimp only
  rw [drop_takeWhile, if_pos hstop, ite_self]
  exact ⟨.port, rfl⟩

/-- What stands before an at-sign stays there. -/
theorem splitUser_append (cs : List Char) :
    ∃ user rest, splitUser (cs ++ blanks) = (user, rest ++ blanks) ∧ rest <:+ cs := by
  have hafter : ((cs ++ blanks).reverse.takeWhile (· ≠ '@')).reverse
      = cs.rtakeWhile (· ≠ '@') ++ blanks := by
    rw [List.reverse_append, List.takeWhile_append_of_pos, List.reverse_append,
      List.reverse_reverse]
    · rfl
    · intro c hc
      have hne : c ≠ '@' := by
        rintro rfl
        exact absurd (hb _ (List.mem_reverse.mp hc)) (by decide)
      simp [hne]
  unfold splitUser
  dsimp only
  rw [hafter]
  split
  · exact ⟨none, cs, rfl, List.suffix_refl cs⟩
  · exact ⟨_, _, rfl, List.rtakeWhile_suffix _ cs⟩

/-- The host is the whole, or a port follows it. -/
theorem takeHost_append (cs : List Char) (inside : Bool) :
    takeHost inside (cs ++ blanks) = cs ++ blanks ∨
      ∃ host port, cs = host ++ ':' :: port ∧ takeHost inside (cs ++ blanks) = host := by
  have hblank (inside : Bool) (l : List Char) (hl : ∀ c ∈ l, c.toNat ≤ 0x20) :
      takeHost inside l = l := by
    induction l generalizing inside with
    | nil => rfl
    | cons c l ih =>
      obtain ⟨hc, hl⟩ := List.forall_mem_cons.mp hl
      have hne : c ≠ ':' := by
        rintro rfl
        exact absurd hc (by decide)
      rw [takeHost, if_neg (by simp [hne]), ih _ hl]
  induction cs generalizing inside with
  | nil => exact .inl (hblank inside blanks hb)
  | cons c cs ih =>
    rw [List.cons_append, takeHost]
    by_cases hc : (c = ':' && !inside) = true
    · have hcolon : c = ':' := by simp at hc; exact hc.1
      rw [if_pos hc, hcolon]
      exact .inr ⟨[], cs, rfl, rfl⟩
    · rw [if_neg hc]
      rcases ih (if c = '[' then true else if c = ']' then false else inside) with
        h | ⟨host, port, rfl, h⟩
      · rw [h]
        exact .inl rfl
      · rw [h]
        exact .inr ⟨c :: host, port, rfl, rfl⟩

/-- No authority ends in blanks. -/
theorem readAuthority_blanks (hne : blanks ≠ []) {scheme : String} (hp : isPosted scheme = true)
    (hslash : '\\' ∉ cs) : ∃ e, readAuthority scheme (cs ++ blanks) = .error e := by
  have hspecial := (isSpecial_of_isPosted hp).1
  obtain ⟨user, rest, hsplit, hsuffix⟩ := splitUser_append hb cs
  unfold readAuthority
  dsimp only
  rw [hsplit, hspecial]
  dsimp only
  rcases takeHost_append hb rest false with h | ⟨host, port, rfl, h⟩
  · obtain ⟨e, he⟩ := readHost_blanks hb hne rest
    have hfull : (rest ++ blanks).isEmpty = false := by simp [hne]
    rw [h, hfull, he]
    exact ⟨e, rfl⟩
  · have hport : '\\' ∉ port := fun hmem =>
      hslash (hsuffix.subset (List.mem_append_right host (List.mem_cons_of_mem _ hmem)))
    obtain ⟨e, he⟩ := readPort_blanks hb hne hport scheme
    have hdrop : (host ++ ':' :: port ++ blanks).drop host.length = ':' :: (port ++ blanks) := by
      rw [List.append_assoc, List.drop_left]
      rfl
    rw [h, hdrop]
    cases host with
    | nil => exact ⟨.emptyHost, rfl⟩
    | cons c host =>
      cases readHost true (c :: host) with
      | error e => exact ⟨e, rfl⟩
      | ok found =>
        rw [List.isEmpty_cons, List.tail_cons, he]
        exact ⟨e, rfl⟩

end

theorem not_mem_authorityOf (rest : List Char) : '\\' ∉ authorityOf rest := fun hmem => by
  have hends := List.mem_takeWhile_imp hmem
  cases hends

/-- So a url keeps its authority if and only if no blank that a slash would keep stands directly
behind it. -/
theorem keepsAuthority_iff {s scheme : String} {rest : List Char}
    (hread : readScheme? (clean s) = some (scheme, rest)) (hp : isPosted scheme = true)
    (hwho : ∃ who, readAuthority scheme (authorityOf rest) = .ok who) :
    KeepsAuthority s ↔ (authorityOf rest = rest.dropWhile isSlash → blanksLeft s = []) := by
  rw [keepsAuthority_of_read hread]
  refine imp_congr_right fun _ => ⟨fun hkeeps => ?_, fun hnone => ?_⟩
  · by_contra hne
    obtain ⟨who, hok⟩ := hkeeps
    obtain ⟨e, he⟩ := readAuthority_blanks (fun c => mem_blanksLeft) hne hp
      (not_mem_authorityOf rest)
    rw [hok] at he
    cases he
  · rwa [hnone, List.append_nil]

end TelemetryGate.Url
