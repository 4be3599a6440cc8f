import Mathlib.Data.List.Basic
import TelemetryGate.Toml.Printer

/-!
# Texts, read back

A text is written in the first kind of quotes that needs no escape. Whatever kind that is, it is
read back, since the quotes inside are never so many in a row that they would close it.

* `Reads`                 a reader takes a value from the front and leaves what follows;
* `Escape`                characters that stand for another one after a backslash;
* `Spells`                characters between three quotes, and the text they spell;
* `reads_writeText`       a text in quotes is read back.
-/

namespace TelemetryGate.Toml

variable {α : Type} {c q : Char} {cs t rest s₀ : List Char}

/-- The reader takes a value from the front and leaves what follows. -/
def Reads (read : Reader α) (s : List Char) (v : α) (t : List Char) : Prop :=
  ∃ h, read s = some ⟨v, t, h⟩

/-- The character does not come first. -/
def NotFirst (c : Char) (s : List Char) : Prop := ∀ d ∈ s.head?, d ≠ c

theorem notFirst_nil (c : Char) : NotFirst c [] := by
  intro d hd
  cases hd

theorem notFirst_cons {d : Char} (h : d ≠ c) (s : List Char) : NotFirst c (d :: s) := by
  intro d' hd
  cases hd
  exact h

/-! ### escapes -/

theorem isPrintable_of_not_control (h : isControl c = false) (hline : c ≠ '\n') :
    isPrintable c = true := by
  by_cases htab : c = '\t'
  · rw [htab]
    rfl
  · simp only [isControl, isPrintable, htab, hline, ne_eq, not_false_eq_true, decide_true,
      Bool.true_and, Bool.or_eq_false_iff, decide_eq_false_iff_not, decide_false, Bool.false_or,
      Bool.and_eq_true, decide_eq_true_eq] at h ⊢
    omega

/-- After a backslash the characters stand for another one, and do not end the line. -/
structure Escape (e : List Char) (c : Char) : Prop where
  front : ∃ d more, e = d :: more ∧ isSpace d = false ∧ d ≠ '\n' ∧ d ≠ '\r'
  scan : ∀ s, scanEscape? (e ++ s) = some (c, s)

theorem escape_letter {d : Char} (hfront : isSpace d = false ∧ d ≠ '\n' ∧ d ≠ '\r')
    (hscan : ∀ s, scanEscape? (d :: s) = some (c, s)) : Escape [d] c :=
  ⟨⟨d, [], rfl, hfront⟩, hscan⟩

/-- Four digits of base sixteen spell a code point. -/
theorem hexDigits_four : ∀ n < 128, (hexDigits 4 n).length = 4 ∧
    ((hexDigits 4 n).all fun c => (Text.hexValue? c).isSome) = true ∧
    Text.hexNumber (hexDigits 4 n) = n := by decide +kernel

theorem escape_control (h : isControl c = true) : Escape ('u' :: hexDigits 4 c.toNat) c := by
  have hsmall : c.toNat < 128 := by
    simp only [isControl, Bool.and_eq_true, Bool.or_eq_true, decide_eq_true_eq] at h
    omega
  obtain ⟨hlength, hdigits, hnumber⟩ := hexDigits_four _ hsmall
  refine ⟨⟨'u', _, rfl, by decide⟩, fun s => ?_⟩
  show scanCodePoint? 4 (hexDigits 4 c.toNat ++ s) = _
  have hvalid : c.toNat.isValidChar := c.valid
  unfold scanCodePoint?
  simp only [List.take_left' hlength, List.drop_left' hlength, hlength, hdigits, hnumber, hvalid,
    decide_true, Bool.true_and, if_true, Char.ofNat_toNat]

/-- A character inside quotes stands for itself, or an escape stands for it. -/
theorem escaped_cases (c : Char) :
    (escaped c = [c] ∧ c ≠ '"' ∧ c ≠ '\\' ∧ isPrintable c = true) ∨
    ∃ e, escaped c = '\\' :: e ∧ Escape e c := by
  unfold escaped
  by_cases hb : c = '\x08'
  · exact .inr ⟨['b'], if_pos hb, escape_letter (by decide) fun s => by rw [hb]; rfl⟩
  by_cases ht : c = '\t'
  · rw [if_neg hb, if_pos ht]
    exact .inr ⟨['t'], rfl, escape_letter (by decide) fun s => by rw [ht]; rfl⟩
  by_cases hn : c = '\n'
  · rw [if_neg hb, if_neg ht, if_pos hn]
    exact .inr ⟨['n'], rfl, escape_letter (by decide) fun s => by rw [hn]; rfl⟩
  by_cases hf : c = '\x0c'
  · rw [if_neg hb, if_neg ht, if_neg hn, if_pos hf]
    exact .inr ⟨['f'], rfl, escape_letter (by decide) fun s => by rw [hf]; rfl⟩
  by_cases hr : c = '\r'
  · rw [if_neg hb, if_neg ht, if_neg hn, if_neg hf, if_pos hr]
    exact .inr ⟨['r'], rfl, escape_letter (by decide) fun s => by rw [hr]; rfl⟩
  by_cases hquote : c = '"'
  · rw [if_neg hb, if_neg ht, if_neg hn, if_neg hf, if_neg hr, if_pos hquote]
    exact .inr ⟨['"'], rfl, escape_letter (by decide) fun s => by rw [hquote]; rfl⟩
  by_cases hslash : c = '\\'
  · rw [if_neg hb, if_neg ht, if_neg hn, if_neg hf, if_neg hr, if_neg hquote, if_pos hslash]
    exact .inr ⟨['\\'], rfl, escape_letter (by decide) fun s => by rw [hslash]; rfl⟩
  rw [if_neg hb, if_neg ht, if_neg hn, if_neg hf, if_neg hr, if_neg hquote, if_neg hslash]
  cases hcontrol : isControl c with
  | true => exact .inr ⟨_, rfl, escape_control hcontrol⟩
  | false => exact .inl ⟨rfl, hquote, hslash, isPrintable_of_not_control hcontrol hn⟩

/-! ### one line -/

theorem scanBasic_escaped (c : Char) (acc s : List Char)
    (hs : (escaped c ++ s).length ≤ s₀.length) :
    ∃ hs' : s.length ≤ s₀.length,
      scanBasic acc (escaped c ++ s) hs = scanBasic (c :: acc) s hs' := by
  have hs' : s.length ≤ s₀.length := by
    rw [List.length_append] at hs
    omega
  refine ⟨hs', ?_⟩
  revert hs
  obtain ⟨he, hquote, hslash, hprint⟩ | ⟨e, he, hescape⟩ := escaped_cases c
  · rw [he]
    intro hs
    show scanBasic acc (c :: s) hs = _
    rw [scanBasic, if_neg hquote, if_neg hslash, if_pos hprint]
  · rw [he]
    intro hs
    show scanBasic acc ('\\' :: (e ++ s)) hs = _
    rw [scanBasic, if_neg (by decide), if_pos rfl]
    split
    · rename_i d u hscan
      rw [hescape.scan s] at hscan
      cases hscan
      rfl
    · rename_i hscan
      rw [hescape.scan s] at hscan
      cases hscan

theorem scanBasic_flatMap (cs acc rest : List Char)
    (hs : (cs.flatMap escaped ++ '"' :: rest).length ≤ s₀.length) :
    ∃ h, scanBasic acc (cs.flatMap escaped ++ '"' :: rest) hs =
      some ⟨cs.reverse ++ acc, rest, h⟩ := by
  induction cs generalizing acc with
  | nil =>
    refine ⟨Shorter.of_front hs, ?_⟩
    simp only [List.flatMap_nil, List.nil_append, List.reverse_nil]
    rw [scanBasic, if_pos rfl]
  | cons c cs ih =>
    revert hs
    rw [List.flatMap_cons, List.append_assoc, List.reverse_cons, List.append_assoc]
    intro hs
    obtain ⟨hs', hstep⟩ := scanBasic_escaped c acc _ hs
    rw [hstep]
    exact ih (c :: acc) hs'

theorem scanLiteral_self (acc rest : List Char)
    (hcs : ∀ c ∈ cs, isPrintable c = true ∧ c ≠ '\'')
    (hs : (cs ++ '\'' :: rest).length ≤ s₀.length) :
    ∃ h, scanLiteral acc (cs ++ '\'' :: rest) hs = some ⟨cs.reverse ++ acc, rest, h⟩ := by
  induction cs generalizing acc with
  | nil =>
    refine ⟨Shorter.of_front hs, ?_⟩
    simp only [List.nil_append, List.reverse_nil]
    rw [scanLiteral, if_pos rfl]
  | cons c cs ih =>
    obtain ⟨⟨hprint, hquote⟩, hcs⟩ := List.forall_mem_cons.mp hcs
    obtain ⟨h, hscan⟩ := ih (c :: acc) hcs (Shorter.le (Shorter.of_front hs))
    refine ⟨h, ?_⟩
    simp only [List.cons_append, List.reverse_cons, List.append_assoc, List.nil_append]
    rw [scanLiteral, if_neg hquote, if_pos hprint]
    exact hscan

/-! ### several lines -/

/-- Characters between three quotes spell a text: no more than two quotes stand in a row, and
escapes stand for characters inside double quotes alone. -/
inductive Spells (q : Char) : List Char → List Char → Prop
  | nil : Spells q [] []
  | quote {t cs : List Char} (h : countFront q (q :: t) ≤ 2) (more : Spells q t cs) :
    Spells q (q :: t) (q :: cs)
  | newline {t cs : List Char} (more : Spells q t cs) : Spells q ('\n' :: t) ('\n' :: cs)
  | plain {c : Char} {t cs : List Char} (hq : c ≠ q) (hslash : c = '\\' → q ≠ '"')
    (hprint : isPrintable c = true) (more : Spells q t cs) : Spells q (c :: t) (c :: cs)
  | escape {e t cs : List Char} {c : Char} (hq : q = '"') (he : Escape e c)
    (more : Spells q t cs) : Spells q ('\\' :: (e ++ t)) (c :: cs)

theorem countFront_cons (q : Char) (s : List Char) :
    countFront q (q :: s) = countFront q s + 1 := by
  simp [countFront]

theorem countFront_cons_of_ne (h : c ≠ q) (s : List Char) : countFront q (c :: s) = 0 := by
  unfold countFront
  rw [List.takeWhile_cons_of_neg (by rwa [decide_eq_true_eq]), List.length_nil]

theorem countFront_of_notFirst (h : NotFirst q rest) : countFront q rest = 0 := by
  cases rest with
  | nil => rfl
  | cons c rest => exact countFront_cons_of_ne (h c rfl) rest

/-- Quotes in a row are counted up to another character. -/
theorem countFront_append (h : ¬ ∀ c ∈ t, c = q) (s : List Char) :
    countFront q (t ++ s) = countFront q t := by
  induction t with
  | nil => exact absurd (fun _ hc => nomatch hc) h
  | cons c t ih =>
    rw [List.cons_append]
    by_cases hc : c = q
    · subst hc
      have hmore : ¬ ∀ c' ∈ t, c' = c := fun hall => h (List.forall_mem_cons.mpr ⟨rfl, hall⟩)
      rw [countFront_cons, countFront_cons, ih hmore]
    · rw [countFront_cons_of_ne hc, countFront_cons_of_ne hc]

theorem countFront_replicate (n : Nat) (h : NotFirst q rest) :
    countFront q (List.replicate n q ++ rest) = n := by
  induction n with
  | zero => exact countFront_of_notFirst h
  | succ n ih => rw [List.replicate_succ, List.cons_append, countFront_cons, ih]

/-- Quotes alone spell themselves. -/
theorem Spells.of_replicate {n : Nat} (hq : q = '"' ∨ q = '\'')
    (h : Spells q (List.replicate n q) cs) : cs = List.replicate n q := by
  induction n generalizing cs with
  | zero =>
    cases h
    rfl
  | succ n ih =>
    rw [List.replicate_succ] at h ⊢
    generalize hu : q :: List.replicate n q = u at h
    cases h with
    | nil => cases hu
    | quote _ more =>
      cases hu
      rw [ih more]
    | newline more =>
      cases hu
      rcases hq with h | h <;> cases h
    | plain hne _ _ more =>
      cases hu
      exact absurd rfl hne
    | escape hquote _ more =>
      have hslash := (List.cons.inj hu).1
      rw [hquote] at hslash
      cases hslash

/-- Up to two quotes before the three that close a text belong to it. -/
theorem scanLines_close {n : Nat} (hn : n ≤ 2) (h : NotFirst q rest) (acc : List Char)
    (hs : (List.replicate n q ++ q :: q :: q :: rest).length ≤ s₀.length) :
    ∃ h', scanLines q acc (List.replicate n q ++ q :: q :: q :: rest) hs =
      some ⟨List.replicate n q ++ acc, rest, h'⟩ := by
  have hcount : countFront q (q :: (List.replicate (n + 2) q ++ rest)) = n + 3 :=
    countFront_replicate (n + 3) h
  have hfront : List.replicate n q ++ q :: q :: q :: rest =
      q :: (List.replicate (n + 2) q ++ rest) := by
    show List.replicate n q ++ (List.replicate 3 q ++ rest) = List.replicate (n + 3) q ++ rest
    rw [← List.append_assoc, List.replicate_append_replicate]
  revert hs
  rw [hfront]
  intro hs
  have hdrop : (List.replicate (n + 2) q ++ rest).drop (n + 3 - 1) = rest :=
    List.drop_left' List.length_replicate
  have hrest : rest.length < s₀.length := by
    simp only [List.length_cons, List.length_append, List.length_replicate] at hs
    omega
  refine ⟨hrest, ?_⟩
  rw [scanLines, if_pos rfl]
  simp only [hcount, hdrop, Nat.add_sub_cancel, if_neg (show ¬ 5 < n + 3 by omega),
    if_pos (show 3 ≤ n + 3 by omega)]

/-- **What stands between three quotes is read as the text that it spells.** -/
theorem Spells.scan (hq : q = '"' ∨ q = '\'') (h : Spells q t cs) (hrest : NotFirst q rest)
    (acc : List Char) (hs : (t ++ q :: q :: q :: rest).length ≤ s₀.length) :
    ∃ h', scanLines q acc (t ++ q :: q :: q :: rest) hs =
      some ⟨cs.reverse ++ acc, rest, h'⟩ := by
  induction h generalizing acc with
  | nil => exact scanLines_close (n := 0) (by omega) hrest acc hs
  | @quote t cs hcount more ih =>
    by_cases hall : ∀ c ∈ t, c = q
    · -- the quotes that are left stand right before those that close the text
      obtain ⟨n, rfl⟩ : ∃ n, t = List.replicate n q := ⟨_, List.eq_replicate_of_mem hall⟩
      rw [countFront_cons, ← List.append_nil (List.replicate n q),
        countFront_replicate n (notFirst_nil q)] at hcount
      obtain rfl := more.of_replicate hq
      have hreverse : (q :: List.replicate n q).reverse = List.replicate (n + 1) q := by
        rw [← List.replicate_succ, List.reverse_replicate]
      rw [hreverse]
      exact scanLines_close hcount hrest acc hs
    · have hfew : countFront q (q :: (t ++ q :: q :: q :: rest)) ≤ 2 := by
        rwa [countFront_cons, countFront_append hall, ← countFront_cons]
      obtain ⟨h', hscan⟩ := ih (q :: acc) (Shorter.le (Shorter.of_front hs))
      refine ⟨h', ?_⟩
      simp only [List.cons_append, List.reverse_cons, List.append_assoc, List.nil_append]
      rw [scanLines, if_pos rfl]
      simp only [if_neg (show ¬ 5 < countFront q (q :: (t ++ q :: q :: q :: rest)) by omega),
        if_neg (show ¬ 3 ≤ countFront q (q :: (t ++ q :: q :: q :: rest)) by omega)]
      exact hscan
  | @newline t cs more ih =>
    obtain ⟨h', hscan⟩ := ih ('\n' :: acc) (Shorter.le (Shorter.of_front hs))
    refine ⟨h', ?_⟩
    simp only [List.cons_append, List.reverse_cons, List.append_assoc, List.nil_append]
    rw [scanLines, if_neg (by rintro rfl; rcases hq with h | h <;> cases h),
      if_neg (by simp), if_neg (by decide)]
    exact hscan
  | @plain c t cs hne hslash hprint more ih =>
    obtain ⟨h', hscan⟩ := ih (c :: acc) (Shorter.le (Shorter.of_front hs))
    refine ⟨h', ?_⟩
    simp only [List.cons_append, List.reverse_cons, List.append_assoc, List.nil_append]
    rw [scanLines, if_neg hne, if_neg (by simpa using hslash), if_pos hprint]
    exact hscan
  | @escape e t cs c hquote he more ih =>
    subst hquote
    have hs' : (t ++ '"' :: '"' :: '"' :: rest).length ≤ s₀.length := by
      simp only [List.cons_append, List.length_cons, List.length_append] at hs ⊢
      omega
    obtain ⟨h', hscan⟩ := ih (c :: acc) hs'
    refine ⟨h', ?_⟩
    have hline : atLineEnd (e ++ (t ++ '"' :: '"' :: '"' :: rest)) = false := by
      obtain ⟨d, more, rfl, hspace, hn, hr⟩ := he.front
      unfold atLineEnd
      rw [List.cons_append, skipSpace, hspace]
      simp only [Bool.false_eq_true, if_false]
      unfold skipNewline?
      split
      · rename_i heq
        exact absurd (List.cons.inj heq).1 hn
      · rename_i heq
        exact absurd (List.cons.inj heq).1 hr
      · rfl
    simp only [List.cons_append, List.reverse_cons, List.append_assoc, List.nil_append]
    rw [scanLines, if_neg (by decide), if_pos (by decide)]
    simp only [hline, Bool.false_eq_true, if_false]
    split
    · rename_i d u hfound
      rw [he.scan] at hfound
      cases hfound
      exact hscan
    · rename_i hfound
      rw [he.scan] at hfound
      cases hfound

theorem le_longestRun (q : Char) (run : Nat) (cs : List Char) :
    run + countFront q cs ≤ longestRun q run cs := by
  induction cs generalizing run with
  | nil => exact Nat.le_refl _
  | cons c cs ih =>
    rw [longestRun]
    by_cases hc : c = q
    · subst hc
      have hmore := ih (run + 1)
      rw [if_pos rfl, countFront_cons]
      omega
    · rw [if_neg hc, countFront_cons_of_ne hc]
      exact Nat.le_max_left _ _

theorem one_le_longestRun (h : q ∈ cs) (run : Nat) : 1 ≤ longestRun q run cs := by
  induction cs generalizing run with
  | nil => cases h
  | cons c cs ih =>
    rw [longestRun]
    by_cases hc : c = q
    · have hmore := le_longestRun q (run + 1) cs
      rw [if_pos hc]
      omega
    · rw [if_neg hc]
      rcases List.mem_cons.mp h with rfl | h
      · exact absurd rfl hc
      · exact Nat.le_trans (ih h 0) (Nat.le_max_right _ _)

/-- Characters stand for themselves between three apostrophes, if there are no more than two of
these in a row. -/
theorem spells_self {run : Nat} (hchars : ∀ c ∈ cs, isPrintable c = true ∨ c = '\n')
    (hrun : longestRun '\'' run cs ≤ 2) : Spells '\'' cs cs := by
  induction cs generalizing run with
  | nil => exact .nil
  | cons c cs ih =>
    obtain ⟨hc, hcs⟩ := List.forall_mem_cons.mp hchars
    have hfront := le_longestRun '\'' run (c :: cs)
    rw [longestRun] at hrun
    by_cases hquote : c = '\''
    · subst hquote
      rw [if_pos rfl] at hrun
      have hmore := le_longestRun '\'' (run + 1) cs
      refine .quote ?_ (ih hcs hrun)
      rw [countFront_cons]
      omega
    · rw [if_neg hquote] at hrun
      have hmore := ih hcs (Nat.le_trans (Nat.le_max_right _ _) hrun)
      rcases hc with hprint | rfl
      · exact .plain hquote (fun _ => by decide) hprint hmore
      · exact .newline hmore

/-- Every third of the quotes in a row is escaped. -/
theorem spells_escapedLines (cs : List Char) {run : Nat} (hrun : run ≤ 2) :
    Spells '"' (escapedLines run cs) cs ∧ run + countFront '"' (escapedLines run cs) ≤ 2 := by
  induction cs generalizing run with
  | nil => exact ⟨.nil, hrun⟩
  | cons c cs ih =>
    rw [escapedLines]
    by_cases hquote : c = '"'
    · subst hquote
      rw [if_pos rfl]
      by_cases hfew : run < 2
      · obtain ⟨hmore, hcount⟩ := ih (show run + 1 ≤ 2 from hfew)
        rw [if_pos hfew, countFront_cons]
        refine ⟨.quote ?_ hmore, by omega⟩
        rw [countFront_cons]
        omega
      · have hescape : Escape ['"'] '"' := escape_letter (by decide) fun s => rfl
        rw [if_neg hfew, countFront_cons_of_ne (by decide)]
        exact ⟨.escape rfl hescape (ih (Nat.zero_le 2)).1, hrun⟩
    · obtain ⟨hmore, _⟩ := ih (Nat.zero_le 2)
      rw [if_neg hquote]
      by_cases hline : c = '\n'
      · rw [if_pos hline, hline, List.singleton_append, countFront_cons_of_ne (by decide)]
        exact ⟨.newline hmore, hrun⟩
      · rw [if_neg hline]
        obtain ⟨he, _, hslash, hprint⟩ | ⟨e, he, hescape⟩ := escaped_cases c
        · rw [he, List.singleton_append, countFront_cons_of_ne hquote]
          exact ⟨.plain hquote (fun h => absurd h hslash) hprint hmore, hrun⟩
        · rw [he, List.cons_append, countFront_cons_of_ne (by decide)]
          exact ⟨.escape rfl hescape hmore, hrun⟩

/-! ### quotes -/

theorem scanText?_basic (lines : Bool) {s : List Char} (h : ∀ t, s ≠ '"' :: '"' :: t) :
    scanText? lines ('"' :: s) = (scanBasic [] s Shorter.tail_le).map textOf := by
  rw [scanText?]
  exact h

theorem scanText?_literal (lines : Bool) {s : List Char} (h : ∀ t, s ≠ '\'' :: '\'' :: t) :
    scanText? lines ('\'' :: s) = (scanLiteral [] s Shorter.tail_le).map textOf := by
  rw [scanText?]
  exact h

variable {s : String}

theorem textOf_reverse {u : List Char} {h : rest.length < u.length} :
    textOf (s := u) ⟨s.toList.reverse ++ [], rest, h⟩ = ⟨s, rest, h⟩ := by
  show (⟨String.ofList (s.toList.reverse ++ []).reverse, rest, h⟩ : Read String u) = _
  rw [List.append_nil, List.reverse_reverse, String.ofList_toList]

/-- A text in double quotes on one line. -/
theorem reads_basic (lines : Bool) (s : String) (hrest : NotFirst '"' rest) :
    Reads (scanText? lines) ('"' :: (s.toList.flatMap escaped ++ '"' :: rest)) s rest := by
  have hshort : ∀ t, s.toList.flatMap escaped ++ '"' :: rest ≠ '"' :: '"' :: t := by
    intro t ht
    cases hs : s.toList with
    | nil =>
      rw [hs] at ht
      cases rest with
      | nil => cases ht
      | cons d rest => exact hrest d rfl (List.cons.inj (List.cons.inj ht).2).1
    | cons c cs =>
      rw [hs, List.flatMap_cons, List.append_assoc] at ht
      obtain ⟨he, hquote, _⟩ | ⟨e, he, _⟩ := escaped_cases c
      · rw [he] at ht
        exact hquote (List.cons.inj ht).1
      · rw [he] at ht
        exact absurd (List.cons.inj ht).1 (by decide)
  have hlength : (s.toList.flatMap escaped ++ '"' :: rest).length ≤
      ('"' :: (s.toList.flatMap escaped ++ '"' :: rest)).length := Shorter.tail_le
  obtain ⟨h, hscan⟩ := scanBasic_flatMap s.toList [] rest hlength
  refine ⟨h, ?_⟩
  rw [scanText?_basic lines hshort, hscan, Option.map_some, textOf_reverse]

/-- A text in apostrophes on one line. -/
theorem reads_literal (lines : Bool) (hs : ∀ c ∈ s.toList, isPrintable c = true ∧ c ≠ '\'')
    (hrest : NotFirst '\'' rest) :
    Reads (scanText? lines) ('\'' :: (s.toList ++ '\'' :: rest)) s rest := by
  have hshort : ∀ t, s.toList ++ '\'' :: rest ≠ '\'' :: '\'' :: t := by
    intro t ht
    cases hcs : s.toList with
    | nil =>
      rw [hcs] at ht
      cases rest with
      | nil => cases ht
      | cons d rest => exact hrest d rfl (List.cons.inj (List.cons.inj ht).2).1
    | cons c cs =>
      rw [hcs] at ht hs
      exact (hs c List.mem_cons_self).2 (List.cons.inj ht).1
  have hlength : (s.toList ++ '\'' :: rest).length ≤ ('\'' :: (s.toList ++ '\'' :: rest)).length :=
    Shorter.tail_le
  obtain ⟨h, hscan⟩ := scanLiteral_self [] rest hs hlength
  refine ⟨h, ?_⟩
  rw [scanText?_literal lines hshort, hscan, Option.map_some, textOf_reverse]

/-- A text over several lines. -/
theorem reads_lines (hq : q = '"' ∨ q = '\'') (h : Spells q t s.toList)
    (hrest : NotFirst q rest) :
    Reads (scanText? true) (q :: q :: q :: '\n' :: (t ++ q :: q :: q :: rest)) s rest := by
  have hlength : (t ++ q :: q :: q :: rest).length ≤
      (q :: q :: q :: '\n' :: (t ++ q :: q :: q :: rest)).length := by
    simp only [List.length_cons]
    omega
  obtain ⟨h', hscan⟩ := h.scan hq hrest [] hlength
  refine ⟨h', ?_⟩
  rw [← textOf_reverse, ← Option.map_some, ← hscan]
  rcases hq with rfl | rfl <;> rfl

/-- **A text in quotes is read back, whatever is in it.** -/
theorem reads_writeText (s : String) (hquote : NotFirst '"' rest)
    (hapostrophe : NotFirst '\'' rest) :
    Reads (scanText? true) (writeText s ++ rest) s rest := by
  have hbasic := reads_basic true s hquote
  have hlines := reads_lines (.inl rfl) (spells_escapedLines s.toList (Nat.zero_le 2)).1 hquote
  have hprintable : s.toList.any isControl = false → ∀ c ∈ s.toList, c ≠ '\n' →
      isPrintable c = true := by
    intro hcontrol c hc
    have hno := List.any_eq_false.mp hcontrol c hc
    exact isPrintable_of_not_control (eq_false_of_ne_true hno)
  unfold writeText
  dsimp only
  split_ifs with hplain hliteral hfew hraw hnewline
  · simpa using hbasic
  · simp only [Bool.and_eq_true, Bool.not_eq_true', decide_eq_true_eq] at hliteral
    obtain ⟨⟨hcontrol, hnone⟩, hnewline⟩ := hliteral
    have hall : ∀ c ∈ s.toList, isPrintable c = true ∧ c ≠ '\'' := by
      intro c hc
      refine ⟨hprintable hcontrol c hc ?_, ?_⟩
      · rintro rfl
        rw [List.contains_iff_mem.mpr hc] at hnewline
        cases hnewline
      · rintro rfl
        have hone := one_le_longestRun hc 0
        omega
    simpa using reads_literal true hall hapostrophe
  · simpa using hlines
  · simp only [Bool.and_eq_true, Bool.not_eq_true', decide_eq_true_eq] at hraw
    obtain ⟨hcontrol, hfew⟩ := hraw
    have hall : ∀ c ∈ s.toList, isPrintable c = true ∨ c = '\n' := by
      intro c hc
      by_cases hline : c = '\n'
      · exact .inr hline
      · exact .inl (hprintable hcontrol c hc hline)
    simpa using reads_lines (.inr rfl) (spells_self hall hfew) hapostrophe
  · simpa using hlines
  · simpa using hbasic

end TelemetryGate.Toml
