import TelemetryGate.Proofs.Url.Slash

/-!
# Blanks in a domain name

Whatever a name is spelled as and however it is written in ASCII, a blank in it stays a blank, and
no name in ASCII may hold one.

* `Text.mem_compose`          composing leaves blanks where they are;
* `Punycode.mem_encode`       the ASCII form of a label holds its ASCII characters;
* `Domain.mem_inAscii`        a label with a blank is written with a blank;
* `Domain.toAscii?_of_blank`  so a name with a blank is no domain name.
-/

namespace TelemetryGate

/-! ### normal form -/

namespace Text

variable {a b c d : Char} {cs : List Char}

theorem takeApart_of_lt (h : c.toNat < 0xC0) (n : Nat) : takeApart c (n + 1) = [c] := by
  have hnone : takeApart? c = none := by
    unfold takeApart?
    exact if_pos h
  rw [takeApart, hnone]

theorem le_of_putTogether? (h : putTogether? a b = some c) : 0x3C ≤ a.toNat ∧ 0x300 ≤ b.toNat := by
  unfold putTogether? at h
  dsimp only at h
  by_cases hlow : (a.toNat < 0x3C || b.toNat < 0x300) = true
  · rw [if_pos hlow] at h
    cases h
  · simp only [Bool.or_eq_true, decide_eq_true_eq, not_or, Nat.not_lt] at hlow
    exact hlow

theorem mem_insertMark : d ∈ insertMark c cs ↔ d = c ∨ d ∈ cs := by
  induction cs with
  | nil => exact List.mem_cons
  | cons b cs ih =>
    rw [insertMark]
    split
    · rw [List.mem_cons, ih, List.mem_cons, or_left_comm]
    · exact List.mem_cons

theorem mem_orderMarks : d ∈ orderMarks cs ↔ d ∈ cs := by
  have hfold : ∀ acc, d ∈ cs.foldl
      (fun acc c => if markClass c = 0 then c :: acc else insertMark c acc) acc ↔
        d ∈ acc ∨ d ∈ cs := by
    induction cs with
    | nil => exact fun acc => (or_iff_left List.not_mem_nil).symm
    | cons c cs ih =>
      intro acc
      have hstep : d ∈ (if markClass c = 0 then c :: acc else insertMark c acc) ↔
          d = c ∨ d ∈ acc := by
        split
        · exact List.mem_cons
        · exact mem_insertMark
      rw [List.foldl_cons, ih, hstep, List.mem_cons, or_assoc, or_left_comm]
  exact (hfold []).trans (or_iff_right List.not_mem_nil)

section
variable {done held rest : List Char} {letter : Char}

/-- A character is put together with the letter, or is the next letter, or is held. -/
theorem joinMarks_cons :
    (∃ joined, putTogether? letter c = some joined ∧
      joinMarks done letter held (c :: rest) = joinMarks done joined held rest) ∨
    joinMarks done letter held (c :: rest) = joinMarks (held ++ letter :: done) c [] rest ∨
    joinMarks done letter held (c :: rest) = joinMarks done letter (c :: held) rest := by
  generalize hall : joinMarks done letter held (c :: rest) = all
  dsimp only [joinMarks] at hall
  split at hall
  · rename_i joined _ hput
    exact .inl ⟨joined, hput, hall.symm⟩
  · right
    by_cases h : markClass c = 0
    · rw [if_pos h] at hall
      exact .inl hall.symm
    · rw [if_neg h] at hall
      exact .inr hall.symm

/-- A character that no mark is put on stays, wherever it stands. -/
theorem mem_joinMarks (h : c.toNat < 0x3C)
    (hc : c ∈ done ∨ c = letter ∨ c ∈ held ∨ c ∈ rest) : c ∈ joinMarks done letter held rest := by
  induction rest generalizing done letter held with
  | nil =>
    show c ∈ (held ++ letter :: done).reverse
    rw [List.mem_reverse, List.mem_append, List.mem_cons]
    rcases hc with hc | hc | hc | hc
    · exact .inr (.inr hc)
    · exact .inr (.inl hc)
    · exact .inl hc
    · cases hc
  | cons d rest ih =>
    rw [List.mem_cons] at hc
    rcases joinMarks_cons with ⟨joined, hput, hnext⟩ | hnext | hnext
    · obtain ⟨hletter, hmark⟩ := le_of_putTogether? hput
      have hne : c ≠ letter := fun heq => absurd (heq ▸ h) (Nat.not_lt.mpr hletter)
      have hne' : c ≠ d := fun heq =>
        absurd (heq ▸ h) (Nat.not_lt.mpr ((by decide : 0x3C ≤ 0x300).trans hmark))
      rw [hnext]
      refine ih ?_
      tauto
    · rw [hnext]
      refine ih ?_
      rw [List.mem_append, List.mem_cons]
      tauto
    · rw [hnext]
      refine ih ?_
      rw [List.mem_cons]
      tauto

end

/-- Composing leaves blanks where they are. -/
theorem mem_compose (h : c.toNat < 0x3C) (hc : c ∈ cs) : c ∈ compose cs := by
  have hparts : c ∈ cs.flatMap fun c => takeApart c 4 := by
    refine List.mem_flatMap.mpr ⟨c, hc, ?_⟩
    rw [takeApart_of_lt (Nat.lt_trans h (by decide))]
    exact List.mem_singleton_self c
  have hordered := List.mem_reverse.mpr (mem_orderMarks.mpr hparts)
  unfold compose
  cases hs : (orderMarks (cs.flatMap fun c => takeApart c 4)).reverse with
  | nil =>
    rw [hs] at hordered
    cases hordered
  | cons letter rest =>
    rw [hs, List.mem_cons] at hordered
    refine mem_joinMarks h ?_
    exact .inr (hordered.imp_right .inr)

end Text

namespace Url

/-! ### labels in ASCII -/

namespace Punycode

theorem Writing.out_pass (n : Nat) (w : Writing) (c : Char) : w.out <:+ (w.pass n c).out := by
  unfold pass
  split
  · exact List.suffix_refl _
  · split
    · exact List.suffix_append _ _
    · exact List.suffix_refl _

theorem Writing.out_passes (n : Nat) (cs : List Char) (w : Writing) :
    w.out <:+ (cs.foldl (pass n) w).out := by
  induction cs generalizing w with
  | nil => exact List.suffix_refl _
  | cons c cs ih => exact (out_pass n w c).trans (ih (w.pass n c))

theorem Writing.out_run (label : List Char) (w : Writing) (n : Nat) (points : List Nat) :
    w.out <:+ (w.run label n points).out := by
  induction points generalizing w n with
  | nil => exact List.suffix_refl _
  | cons m points ih =>
    rw [run]
    have hpassed := out_passes m label { w with delta := w.delta + (m - n) * (w.written + 1) }
    generalize label.foldl (pass m) { w with delta := w.delta + (m - n) * (w.written + 1) } =
      passed at hpassed ⊢
    exact hpassed.trans (ih { passed with delta := passed.delta + 1 } (m + 1))

/-- The ASCII form of a label holds its ASCII characters. -/
theorem mem_encode {c : Char} {label : List Char} (hc : c ∈ label) (h : c.toNat < 128) :
    c ∈ encode label := by
  have hbasic : c ∈ label.filter fun c => c.toNat < 128 :=
    List.mem_filter.mpr ⟨hc, decide_eq_true h⟩
  have hne : (label.filter fun c => c.toNat < 128).isEmpty = false :=
    List.isEmpty_eq_false_iff.mpr (List.ne_nil_of_mem hbasic)
  unfold encode
  dsimp only
  rw [hne, List.mem_reverse]
  refine (Writing.out_run _ _ _ _).subset ?_
  exact List.mem_cons_of_mem _ (List.mem_reverse.mpr hbasic)

end Punycode

/-! ### names in ASCII -/

namespace Domain

variable {c : Char} (hblank : c.toNat ≤ 0x20)

theorem toLower_of_edge (h : c.toNat ≤ 0x20) : c.toLower = c :=
  of_decide_eq_true (of_lt (b := 33) (P := fun c => c.toLower = c) (by decide)
    (Nat.lt_succ_of_le h))

/-- What a label of ASCII characters means is written as the label. -/
theorem inAscii_of_meaning? {label meaning : List Char} (h : label.all isAscii = true)
    (hm : meaning? label = some meaning) : inAscii meaning = label := by
  unfold meaning? at hm
  split at hm
  · rw [if_neg (by simp [h])] at hm
    split at hm
    · split at hm
      · rename_i hcond
        cases hm
        simp only [Bool.and_eq_true, Bool.not_eq_true', decide_eq_true_eq] at hcond
        unfold inAscii
        rw [if_neg (by simp [hcond.1.1]), hcond.2]
        rfl
      · cases hm
    · cases hm
  · rw [if_pos (by simp [h])] at hm
    cases hm
    exact if_pos h

/-- A label beyond ASCII means itself. -/
theorem eq_of_meaning? {label meaning : List Char} (h : label.all isAscii = false)
    (hm : meaning? label = some meaning) : meaning = label := by
  unfold meaning? at hm
  split at hm
  · rw [if_pos (by simp [h])] at hm
    cases hm
  · split at hm
    · exact (Option.some.inj hm).symm
    · cases hm

/-- What stands in texts with a separator stands in it or in one of them. -/
theorem mem_intercalate_iff {sep : List Char} (hsep : c ∉ sep) {parts : List (List Char)} :
    c ∈ sep.intercalate parts ↔ ∃ part ∈ parts, c ∈ part := by
  induction parts with
  | nil => simp
  | cons first rest ih =>
    cases rest with
    | nil => simp
    | cons second rest =>
      rw [List.intercalate_cons_cons, List.mem_append, List.mem_append, or_iff_left hsep, ih]
      exact (List.exists_mem_cons_iff _ first (second :: rest)).symm

/-- What stands for something in a list stands in the list of all that does. -/
theorem exists_of_mapM {α β : Type} {f : α → Option β} {as : List α} {bs : List β}
    (h : as.mapM f = some bs) {a : α} (ha : a ∈ as) : ∃ b ∈ bs, f a = some b := by
  induction as generalizing bs with
  | nil => cases ha
  | cons first rest ih =>
    rw [List.mapM_cons] at h
    obtain ⟨b, hb, h⟩ := Option.bind_eq_some_iff.mp h
    obtain ⟨bs, hbs, h⟩ := Option.bind_eq_some_iff.mp h
    cases h
    rcases List.mem_cons.mp ha with rfl | ha
    · exact ⟨b, List.mem_cons_self, hb⟩
    · obtain ⟨b', hb', hfound⟩ := ih hbs ha
      exact ⟨b', List.mem_cons_of_mem _ hb', hfound⟩

include hblank

/-- A name is spelled with the blanks it has. -/
theorem mem_spelling? {name cs : List Char} (h : spelling? name = some cs) (hc : c ∈ name) :
    c ∈ cs := by
  have hspell : spell? c = some [c] :=
    (if_pos (decide_eq_true (by omega))).trans (congrArg (some [·]) (toLower_of_edge hblank))
  unfold spelling? at h
  obtain ⟨parts, hparts, rfl⟩ := Option.map_eq_some_iff.mp h
  have hflat : c ∈ parts.flatten := by
    obtain ⟨part, hpart, heq⟩ := exists_of_mapM hparts hc
    cases hspell.symm.trans heq
    exact List.mem_flatten.mpr ⟨[c], hpart, List.mem_singleton_self c⟩
  dsimp only
  split
  · exact hflat
  · exact Text.mem_compose (Nat.lt_of_le_of_lt hblank (by decide)) hflat

/-- A label with a blank is written with a blank. -/
theorem mem_inAscii {label meaning : List Char} (hm : meaning? label = some meaning)
    (hc : c ∈ label) : c ∈ inAscii meaning := by
  by_cases h : label.all isAscii = true
  · rwa [inAscii_of_meaning? h hm]
  · obtain rfl := eq_of_meaning? (Bool.eq_false_iff.mpr h) hm
    rw [inAscii, if_neg h]
    exact List.mem_append_right _ (Punycode.mem_encode hc (by omega))

/-- No domain name holds a blank. -/
theorem toAscii?_of_blank {name : List Char} (hc : c ∈ name) : toAscii? name = none := by
  unfold toAscii?
  cases hs : spelling? name with
  | none => rfl
  | some cs =>
    dsimp only
    cases hm : (cs.splitOn '.').mapM meaning? with
    | none => rfl
    | some meanings =>
      have hpoint : c ∉ ['.'] := by
        intro hmem
        rw [List.mem_singleton.mp hmem] at hblank
        exact absurd hblank (by decide)
      have hmem := mem_spelling? hblank hs hc
      have hsplit : ['.'].intercalate (cs.splitOn '.') = cs := List.intercalate_splitOn '.'
      rw [← hsplit, mem_intercalate_iff hpoint] at hmem
      obtain ⟨label, hlabel, hc⟩ := hmem
      obtain ⟨meaning, hmeaning, heq⟩ := exists_of_mapM hm hlabel
      have hascii : c ∈ ['.'].intercalate (meanings.map inAscii) :=
        (mem_intercalate_iff hpoint).mpr
          ⟨_, List.mem_map_of_mem hmeaning, mem_inAscii hblank heq hc⟩
      have hforbidden : isForbidden c = true := by simp [isForbidden, hblank]
      have hany : (['.'].intercalate (meanings.map inAscii)).any isForbidden = true :=
        List.any_eq_true.mpr ⟨c, hascii, hforbidden⟩
      dsimp only
      rw [hany, Bool.or_true, if_pos rfl]

end Domain

end Url

end TelemetryGate
