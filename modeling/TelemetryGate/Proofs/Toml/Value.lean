import Mathlib.Data.List.TakeWhile
import TelemetryGate.Proofs.Decimal
import TelemetryGate.Proofs.Toml.Text
import TelemetryGate.Toml.Reader

/-!
# Names and values, read back

* `startsName`, `EndsName`   what a name starts with, and what follows it;
* `reads_key`                names apart by full stops are read back;
* `Simple`                   texts, flags and whole numbers that fit a signed word;
* `reads_simple`             these are read back at the end of a line.
-/

namespace TelemetryGate.Toml

variable {c d : Char} {s : String} {rest : List Char}

/-! ### names -/

/-- whether a name may start with a character: one without quotes, or a quote -/
def startsName (c : Char) : Bool := isBare c || c = '"' || c = '\''

theorem ne_of_startsName (hc : startsName c = true) (hd : startsName d = false) : c ≠ d := by
  rintro rfl
  rw [hc] at hd
  cases hd

/-- A space, a full stop or a bracket comes first. -/
def EndsName (s : List Char) : Prop := ∃ c ∈ [' ', '.', ']'], ∃ t, s = c :: t

theorem EndsName.notFirst (h : EndsName rest) (hc : c ∉ [' ', '.', ']']) : NotFirst c rest := by
  obtain ⟨d, hd, t, rfl⟩ := h
  refine notFirst_cons ?_ t
  rintro rfl
  exact hc hd

theorem EndsName.not_bare (h : EndsName rest) : rest.takeWhile isBare = [] := by
  have hall : ∀ c ∈ [' ', '.', ']'], isBare c = false := by
    simp only [List.forall_mem_cons]
    exact ⟨by decide, by decide, by decide, fun _ hd => nomatch hd⟩
  obtain ⟨d, hd, t, rfl⟩ := h
  rw [List.takeWhile_cons_of_neg]
  rw [hall d hd]
  decide

theorem writeName_front (s : String) :
    ∃ c t, writeName s = c :: t ∧ startsName c = true := by
  unfold writeName
  dsimp only
  split_ifs with hbare hbasic hliteral
  · rw [Bool.and_eq_true, Bool.not_eq_true', List.isEmpty_eq_false_iff] at hbare
    obtain ⟨hne, hall⟩ := hbare
    obtain ⟨c, t, hs⟩ := List.exists_cons_of_ne_nil hne
    have hc : isBare c = true := List.all_eq_true.mp hall c (hs ▸ List.mem_cons_self)
    refine ⟨c, t, hs, ?_⟩
    rw [startsName, hc]
    rfl
  · exact ⟨'"', _, rfl, rfl⟩
  · exact ⟨'\'', _, rfl, rfl⟩
  · exact ⟨'"', _, rfl, rfl⟩

/-- A name without quotes goes on to the first character that needs some. -/
theorem reads_bare (hne : s.toList ≠ []) (hall : ∀ c ∈ s.toList, isBare c = true)
    (hrest : EndsName rest) : Reads scanName? (s.toList ++ rest) s rest := by
  obtain ⟨c, cs, hs⟩ := List.exists_cons_of_ne_nil hne
  rw [hs] at hall ⊢
  obtain ⟨hc, hcs⟩ := List.forall_mem_cons.mp hall
  have hquote : ¬ (c = '"' || c = '\'') = true := by
    rw [Bool.or_eq_true, decide_eq_true_eq, decide_eq_true_eq]
    rintro (rfl | rfl)
    · exact absurd hc (by decide)
    · exact absurd hc (by decide)
  have htake : (cs ++ rest).takeWhile isBare = cs := by
    rw [List.takeWhile_append_of_pos hcs, hrest.not_bare, List.append_nil]
  have hdrop : (cs ++ rest).dropWhile isBare = rest := by
    have hparts := List.takeWhile_append_dropWhile (p := isBare) (l := cs ++ rest)
    rw [htake] at hparts
    exact List.append_cancel_left hparts
  have hlength : rest.length < (c :: (cs ++ rest)).length := by
    simp only [List.length_cons, List.length_append]
    omega
  refine ⟨hlength, ?_⟩
  show scanName? (c :: (cs ++ rest)) = _
  rw [scanName?, if_neg hquote, if_pos hc]
  simp only [htake, hdrop, ← hs, String.ofList_toList]

/-- A name in quotes is a text on one line. -/
theorem scanName?_quoted (h : c = '"' ∨ c = '\'') (t : List Char) :
    scanName? (c :: t) = scanText? false (c :: t) := by
  have hquote : (c = '"' || c = '\'') = true := by
    rwa [Bool.or_eq_true, decide_eq_true_eq, decide_eq_true_eq]
  rw [scanName?, if_pos hquote]

/-- **A name is read back, with quotes or without.** -/
theorem reads_writeName (s : String) (hrest : EndsName rest) :
    Reads scanName? (writeName s ++ rest) s rest := by
  have hbasic : Reads scanName? ('"' :: (s.toList.flatMap escaped ++ '"' :: rest)) s rest := by
    unfold Reads
    rw [scanName?_quoted (.inl rfl)]
    exact reads_basic false s (hrest.notFirst (by decide))
  unfold writeName
  dsimp only
  split_ifs with hbare hplain hliteral
  · rw [Bool.and_eq_true, Bool.not_eq_true', List.isEmpty_eq_false_iff] at hbare
    exact reads_bare hbare.1 (List.all_eq_true.mp hbare.2) hrest
  · simpa using hbasic
  · simp only [Bool.and_eq_true, Bool.not_eq_true'] at hliteral
    obtain ⟨hcontrol, hapostrophe⟩ := hliteral
    have hall : ∀ c ∈ s.toList, isPrintable c = true ∧ c ≠ '\'' := by
      intro c hc
      have hno := eq_false_of_ne_true (List.any_eq_false.mp hcontrol c hc)
      rw [Bool.or_eq_false_iff, decide_eq_false_iff_not] at hno
      refine ⟨isPrintable_of_not_control hno.1 hno.2, ?_⟩
      rintro rfl
      rw [List.contains_iff_mem.mpr hc] at hapostrophe
      cases hapostrophe
    have hread : Reads scanName? ('\'' :: (s.toList ++ '\'' :: rest)) s rest := by
      unfold Reads
      rw [scanName?_quoted (.inr rfl)]
      exact reads_literal false hall (hrest.notFirst (by decide))
    simpa using hread
  · simpa using hbasic

/-! ### several names -/

theorem writePath_singleton (name : String) : writePath [name] = writeName name := by
  simp [writePath]

theorem writePath_cons (name : String) {path : List String} (h : path ≠ []) :
    writePath (name :: path) = writeName name ++ '.' :: writePath path := by
  obtain ⟨name', path, rfl⟩ := List.exists_cons_of_ne_nil h
  simp [writePath, List.intercalate]

theorem writePath_front {path : List String} (h : path ≠ []) :
    ∃ c t, writePath path = c :: t ∧ startsName c = true := by
  obtain ⟨name, path, rfl⟩ := List.exists_cons_of_ne_nil h
  obtain ⟨c, t, hname, hc⟩ := writeName_front name
  by_cases hpath : path = []
  · rw [hpath, writePath_singleton]
    exact ⟨c, t, hname, hc⟩
  · rw [writePath_cons name hpath, hname]
    exact ⟨c, _, rfl, hc⟩

theorem skipSpace_of_startsName (h : startsName c = true) (t : List Char) :
    skipSpace (c :: t) = c :: t := by
  have hspace : isSpace c = false := by
    unfold isSpace
    rw [decide_eq_false (ne_of_startsName h (by decide)),
      decide_eq_false (ne_of_startsName h (by decide))]
    rfl
  rw [skipSpace, hspace]
  exact if_neg Bool.false_ne_true

theorem scanNames_writePath {path : List String} (hne : path ≠ []) (acc : List String)
    {s₀ : List Char} (hrest : EndsName rest)
    (hstop : ∀ r, ahead rest = some r → r.value ≠ '.')
    (hs : (writePath path ++ rest).length ≤ s₀.length) :
    ∃ h, scanNames acc (writePath path ++ rest) hs = some ⟨acc.reverse ++ path, rest, h⟩ := by
  induction path generalizing acc with
  | nil => exact absurd rfl hne
  | cons name path ih =>
    by_cases hpath : path = []
    · subst hpath
      revert hs
      rw [writePath_singleton]
      intro hs
      obtain ⟨h, hname⟩ := reads_writeName name hrest
      refine ⟨Shorter.within h hs, ?_⟩
      rw [scanNames]
      split
      · rename_i hnone
        rw [hname] at hnone
        cases hnone
      · rename_i name' t h' hsome
        rw [hname] at hsome
        cases hsome
        split
        · rename_i hdot
          exact absurd rfl (hstop _ hdot)
        · rw [List.reverse_cons]
    · revert hs
      rw [writePath_cons name hpath, List.append_assoc]
      intro hs
      have hends : EndsName ('.' :: (writePath path ++ rest)) := ⟨'.', by decide, _, rfl⟩
      obtain ⟨h, hname⟩ := reads_writeName name hends
      obtain ⟨d, t, hfront, hd⟩ := writePath_front hpath
      have hskip : skipSpace (writePath path ++ rest) = writePath path ++ rest := by
        rw [hfront, List.cons_append, skipSpace_of_startsName hd]
      have hdot : ahead ('.' :: (writePath path ++ rest)) =
          some ⟨'.', writePath path ++ rest, Shorter.tail⟩ := by
        rw [ahead, if_neg (by decide)]
      have hs' : (writePath path ++ rest).length ≤ s₀.length := by
        simp only [List.length_append, List.length_cons] at hs ⊢
        omega
      obtain ⟨h', hmore⟩ := ih hpath (name :: acc) hs'
      refine ⟨h', ?_⟩
      show scanNames acc (writeName name ++ '.' :: (writePath path ++ rest)) hs = _
      rw [scanNames]
      split
      · rename_i hnone
        rw [hname] at hnone
        cases hnone
      · rename_i name' t' h'' hsome
        rw [hname] at hsome
        cases hsome
        split
        · rename_i hfound
          rw [hdot] at hfound
          cases hfound
          simp only [hskip]
          rw [hmore, List.reverse_cons, List.append_assoc]
          rfl
        · rename_i hno
          exact absurd hdot (hno _ _)

/-- **Names apart by full stops are read back, if there are not too many of them.** -/
theorem reads_key {path : List String} (hne : path ≠ []) (hfew : path.length ≤ maxNames)
    (hrest : EndsName rest) (hstop : ∀ r, ahead rest = some r → r.value ≠ '.') :
    Reads scanKey? (writePath path ++ rest) path rest := by
  obtain ⟨h, hscan⟩ := scanNames_writePath hne [] hrest hstop Shorter.same
  refine ⟨h, ?_⟩
  rw [scanKey?, hscan]
  exact if_pos (decide_eq_true hfew)

/-! ### words without quotes -/

/-- Texts, flags and whole numbers that fit a signed word. -/
inductive Simple : Toml → Prop
  | text (s : String) : Simple (.text s)
  | flag (b : Bool) : Simple (.flag b)
  | whole (n : Nat) (h : Word.isSigned n = true) : Simple (.whole n)

/-- A word at the end of a line is read to its last character. -/
theorem reads_word {w : List Char} {v : Toml} (hne : w ≠ [])
    (hw : ∀ c ∈ w, isWordChar c = true) (hv : scalar? w = some v) (rest : List Char) :
    Reads scanScalar? (w ++ '\n' :: rest) v ('\n' :: rest) := by
  have htake : (w ++ '\n' :: rest).takeWhile isWordChar = w := by
    rw [List.takeWhile_append_of_pos hw, List.takeWhile_cons_of_neg (by decide), List.append_nil]
  have hpos : 0 < w.length := List.length_pos_of_ne_nil hne
  have hlength : ('\n' :: rest).length < (w ++ '\n' :: rest).length := by
    rw [List.length_append]
    omega
  refine ⟨hlength, ?_⟩
  unfold scanScalar?
  have hn : 0 < w.length ∧ w.length ≤ (w ++ '\n' :: rest).length := by
    rw [List.length_append]
    omega
  simp only [htake, List.drop_left]
  -- no date and time apart by a space, since the line ends here
  show (if h : 0 < w.length + 0 ∧ w.length + 0 ≤ (w ++ '\n' :: rest).length then
    (scalar? (List.take (w.length + 0) (w ++ '\n' :: rest))).map fun v =>
      ⟨v, (w ++ '\n' :: rest).drop (w.length + 0), _⟩ else none :
    Option (Read Toml (w ++ '\n' :: rest))) = _
  simp only [Nat.add_zero, dif_pos hn, List.take_left, List.drop_left, hv, Option.map_some]

/-! ### whole numbers -/

variable {ds : List Char}

theorem digitsOf?_self (hne : ds ≠ []) (hall : ∀ c ∈ ds, c.isDigit = true) :
    digitsOf? Char.isDigit ds = some ds := by
  fun_induction digitsOf? Char.isDigit ds with
  | case1 => exact absurd rfl hne
  | case2 c hc => rfl
  | case3 c hc => exact absurd (hall c List.mem_cons_self) hc
  | case4 c rest hc ih =>
    exact absurd (hall '_' (List.mem_cons_of_mem _ List.mem_cons_self)) (by decide)
  | case5 c rest hc => exact absurd (hall c List.mem_cons_self) hc
  | case6 c rest hrest _ hc ih =>
    rw [ih hrest fun d hd => hall d (List.mem_cons_of_mem _ hd)]
    rfl
  | case7 c rest _ _ hc => exact absurd (hall c List.mem_cons_self) hc

theorem plainDigits?_toDigits (n : Nat) :
    plainDigits? (Nat.toDigits 10 n) = some (Nat.toDigits 10 n) := by
  have hself : digitsOf? Char.isDigit (Nat.toDigits 10 n) = some (Nat.toDigits 10 n) :=
    digitsOf?_self Nat.toDigits_ne_nil fun c hc => Json.isDigit_of_mem hc
  unfold plainDigits?
  split
  · -- a zero comes first for zero only, and nothing comes after that one
    rename_i c t hzero
    by_cases hn : n = 0
    · subst hn
      cases hzero
    · obtain ⟨d, cs, hdigits, hd⟩ := Json.toDigits_front hn
      rw [hdigits] at hzero
      exact absurd (List.cons.inj hzero).1 hd
  · exact hself

section
variable (hall : ∀ c ∈ ds, c.isDigit = true)
include hall

theorem not_mem_digits (hd : d.isDigit = false) : d ∉ ds := by
  intro hmem
  rw [hall d hmem] at hd
  cases hd

/-- Digits alone are no date. -/
theorem date?_digits : date? ds = none := by
  unfold date?
  dsimp only
  split
  · rename_i hdash
    have hmem : '-' ∈ ds.drop 4 := hdash ▸ List.mem_cons_self
    exact absurd (List.mem_of_mem_drop hmem) (not_mem_digits hall (by decide))
  · rfl

theorem two?_rest {most n : Nat} {r : List Char} (h : two? most ds = some (n, r)) :
    ∀ c ∈ r, c ∈ ds := by
  unfold two? at h
  split at h
  · split_ifs at h
    cases h
    exact fun c hc => List.mem_cons_of_mem _ (List.mem_cons_of_mem _ hc)
  · cases h

/-- Digits alone are no time of day. -/
theorem time?_digits : time? ds = none := by
  unfold time?
  split
  · rename_i n r hcolon
    have hmem : ':' ∈ ds := two?_rest hall hcolon ':' List.mem_cons_self
    exact absurd hmem (not_mem_digits hall (by decide))
  · rfl

theorem moment?_digits : moment? ds = none := by
  unfold moment?
  rw [date?_digits hall, time?_digits hall]

/-- Digits alone are no number with a point or an exponent. -/
theorem real?_digits : real? ds = none := by
  have hmantissa : ds.takeWhile (fun c => !Decimal.isExponentMark c) = ds := by
    refine List.takeWhile_eq_self_iff.mpr fun c hc => ?_
    rw [Decimal.isExponentMark, decide_eq_false (Decimal.digit_ne (hall c hc) (by decide)),
      decide_eq_false (Decimal.digit_ne (hall c hc) (by decide))]
    rfl
  have hwhole : ds.takeWhile (fun c => decide (c ≠ '.')) = ds :=
    List.takeWhile_eq_self_iff.mpr fun c hc =>
      decide_eq_true (Decimal.digit_ne (hall c hc) (by decide))
  have hinf : ds ≠ ['i', 'n', 'f'] := by
    rintro rfl
    exact absurd (hall 'i' List.mem_cons_self) (by decide)
  have hnan : ds ≠ ['n', 'a', 'n'] := by
    rintro rfl
    exact absurd (hall 'n' List.mem_cons_self) (by decide)
  unfold real?
  simp only [Decimal.takeSign_digits hall, if_neg hinf, if_neg hnan, hmantissa, hwhole,
    List.drop_length, List.isEmpty_nil, if_true, Bool.and_self]
  split
  · rfl
  · rfl

end

theorem whole?_digits {n : Nat} (h : Word.isSigned n = true) :
    whole? (Nat.toDigits 10 n) = some (.whole n) := by
  have hsign : Decimal.takeSign (Nat.toDigits 10 n) = (false, Nat.toDigits 10 n) :=
    Decimal.takeSign_digits fun c hc => Json.isDigit_of_mem hc
  have hnumber : Decimal.ofDigits (Nat.toDigits 10 n) = n := Nat.ofDigitChars_ten_toDigits
  rw [whole?, hsign]
  dsimp only
  rw [plainDigits?_toDigits, Option.bind_some, hnumber]
  exact if_pos h

/-- Digits are the value of the number that they spell, if it fits a signed word. -/
theorem scalar?_digits {n : Nat} (h : Word.isSigned n = true) :
    scalar? (Nat.toDigits 10 n) = some (.whole n) := by
  have hall : ∀ c ∈ Nat.toDigits 10 n, c.isDigit = true := fun c hc => Json.isDigit_of_mem hc
  have htrue : Nat.toDigits 10 n ≠ ['t', 'r', 'u', 'e'] := by
    intro heq
    exact absurd (hall 't' (heq ▸ List.mem_cons_self)) (by decide)
  have hfalse : Nat.toDigits 10 n ≠ ['f', 'a', 'l', 's', 'e'] := by
    intro heq
    exact absurd (hall 'f' (heq ▸ List.mem_cons_self)) (by decide)
  have hbase : ∀ c t, Nat.toDigits 10 n = '0' :: c :: t → c.isDigit = true := by
    intro c t heq
    exact hall c (heq ▸ List.mem_cons_of_mem _ List.mem_cons_self)
  unfold scalar?
  rw [if_neg htrue, if_neg hfalse]
  split
  · rename_i heq
    exact absurd (hbase _ _ heq) (by decide)
  · rename_i heq
    exact absurd (hbase _ _ heq) (by decide)
  · rename_i heq
    exact absurd (hbase _ _ heq) (by decide)
  · rw [moment?_digits hall, real?_digits hall]
    exact whole?_digits h

/-! ### values -/

theorem writeText_front (s : String) :
    ∃ q t, writeText s = q :: t ∧ (q = '"' ∨ q = '\'') := by
  unfold writeText
  dsimp only
  split_ifs
  · exact ⟨'"', _, rfl, .inl rfl⟩
  · exact ⟨'\'', _, rfl, .inr rfl⟩
  · exact ⟨'"', _, rfl, .inl rfl⟩
  · exact ⟨'\'', _, rfl, .inr rfl⟩
  · exact ⟨'"', _, rfl, .inl rfl⟩
  · exact ⟨'"', _, rfl, .inl rfl⟩

theorem readValue_word (depth : Nat) (hc : isWordChar c = true) (t : List Char) :
    readValue depth (c :: t) = scanScalar? (c :: t) := by
  have hne : ∀ d, isWordChar d = false → c ≠ d := by
    rintro d hd rfl
    rw [hc] at hd
    cases hd
  have hquote : ¬ (c = '"' || c = '\'') = true := by
    rw [Bool.or_eq_true, decide_eq_true_eq, decide_eq_true_eq, not_or]
    exact ⟨hne _ (by decide), hne _ (by decide)⟩
  unfold readValue
  rw [if_neg hquote, if_neg (hne _ (by decide)), if_neg (hne _ (by decide))]

/-- **A simple value is read back at the end of a line.** -/
theorem reads_simple {v : Toml} (hv : Simple v) (depth : Nat) (rest : List Char) :
    Reads (readValue depth) (writeValue v ++ '\n' :: rest) v ('\n' :: rest) := by
  have hword : ∀ {w : List Char} {v : Toml}, w ≠ [] → (∀ c ∈ w, isWordChar c = true) →
      scalar? w = some v → Reads (readValue depth) (w ++ '\n' :: rest) v ('\n' :: rest) := by
    intro w v hne hw hv
    obtain ⟨h, hread⟩ := reads_word hne hw hv rest
    refine ⟨h, ?_⟩
    obtain ⟨c, t, rfl⟩ := List.exists_cons_of_ne_nil hne
    rw [← hread]
    exact readValue_word depth (hw c List.mem_cons_self) _
  cases hv with
  | text s =>
    obtain ⟨h, hread⟩ := reads_writeText s (notFirst_cons (by decide : '\n' ≠ '"') rest)
      (notFirst_cons (by decide) rest)
    obtain ⟨q, t, hfront, hq⟩ := writeText_front s
    have hquote : (q = '"' || q = '\'') = true := by
      rwa [Bool.or_eq_true, decide_eq_true_eq, decide_eq_true_eq]
    refine ⟨h, ?_⟩
    show readValue depth (writeText s ++ '\n' :: rest) = _
    have hvalue : readValue depth (writeText s ++ '\n' :: rest) =
        (scanText? true (writeText s ++ '\n' :: rest)).map (Read.map .text) := by
      rw [hfront, List.cons_append]
      unfold readValue
      exact if_pos hquote
    rw [hvalue, hread]
    rfl
  | flag b =>
    cases b
    · exact hword (by decide) (List.all_eq_true.mp (by decide)) rfl
    · exact hword (by decide) (List.all_eq_true.mp (by decide)) rfl
  | whole n h =>
    have hdigits : (toString (n : Int)).toList = Nat.toDigits 10 n := Nat.toList_repr
    show Reads (readValue depth) ((toString (n : Int)).toList ++ '\n' :: rest) _ _
    rw [hdigits]
    refine hword Nat.toDigits_ne_nil (fun c hc => ?_) (scalar?_digits h)
    rw [isWordChar, Char.isAlphanum, Json.isDigit_of_mem hc, Bool.or_true, Bool.true_or]

end TelemetryGate.Toml
