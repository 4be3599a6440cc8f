import TelemetryGate.Json.Printer
import TelemetryGate.Json.Scan
import TelemetryGate.Proofs.Utf8

/-!
# Texts in quotes

* `Plain`                the bytes that stand for themselves inside quotes;
* `Escaped`, `escaped`   the three ways in which a character is written;
* `Inside`, `Spells`     a text from after its opening quote: any, and one of known content;
* `quotes_inQuotes`      what is written in quotes is a text.
-/

namespace TelemetryGate.Json

variable {s t : List UInt8} {c : Char}

/-! ### bytes that stand for themselves -/

/-- Neither a control nor a quote nor a backslash. -/
def Plain (b : UInt8) : Prop := 32 ≤ b.toNat ∧ b.toNat ≠ 34 ∧ b.toNat ≠ 92

theorem Plain.cases {b : UInt8} (h : Plain b) : b ≠ 34 ∧ b ≠ 92 ∧ ¬ b < 32 := by
  obtain ⟨hlow, hquote, hslash⟩ := h
  refine ⟨?_, ?_, ?_⟩
  · intro e
    exact hquote (congrArg UInt8.toNat e)
  · intro e
    exact hslash (congrArg UInt8.toNat e)
  · intro hlt
    exact absurd (UInt8.lt_iff_toNat_lt.mp hlt) (Nat.not_lt.mpr hlow)

theorem plain_char (h : 32 ≤ c.toNat) (hq : c ≠ '"') (hb : c ≠ '\\') {b : UInt8}
    (hmem : b ∈ Utf8.char c) : Plain b := by
  by_cases hlow : c.toNat < 0x80
  · rw [Utf8.char_of_lt hlow, List.mem_singleton] at hmem
    have hn : b.toNat = c.toNat := by
      rw [hmem, UInt8.toNat_ofNat_of_lt' (Nat.lt_trans hlow (by decide))]
    refine ⟨hn ▸ h, ?_, ?_⟩
    · intro e
      exact hq (Char.toNat_inj.mp (hn.symm.trans e))
    · intro e
      exact hb (Char.toNat_inj.mp (hn.symm.trans e))
  · have hhigh := Utf8.char_high (Nat.not_lt.mp hlow) hmem
    exact ⟨by omega, by omega, by omega⟩

/-! ### escapes -/

/-- The byte of a digit of base sixteen. -/
def hexByte (n : Nat) : UInt8 := UInt8.ofNat (hexDigit n).toNat

theorem hexByte?_hexByte : ∀ n < 16, hexByte? (hexByte n) = some n := by decide

/-- How a character is written inside quotes. -/
inductive Escaped (c : Char) : List UInt8 → Prop
  | letter {b : UInt8} (h : letterEscape? b = some c) : Escaped c [92, b]
  | control (h : c.toNat < 0x20) :
    Escaped c [92, 117, 48, 48, hexByte (c.toNat / 16), hexByte (c.toNat % 16)]
  | plain (h : ∀ b ∈ Utf8.char c, Plain b) : Escaped c (Utf8.char c)

/-- The characters that have a letter of their own, and the letter's byte. -/
def letters : List (Char × UInt8) :=
  [('"', 34), ('\\', 92), ('\x08', 98), ('\x0c', 102), ('\n', 110), ('\r', 114), ('\t', 116)]

theorem escape_letter : ∀ p ∈ letters,
    (escape p.1).flatMap Utf8.char = [92, p.2] ∧ letterEscape? p.2 = some p.1 := by decide

theorem hexDigit_lt : ∀ n < 16, (hexDigit n).toNat < 0x80 := by decide

theorem char_hexDigit {n : Nat} (h : n < 16) : Utf8.char (hexDigit n) = [hexByte n] :=
  Utf8.char_of_lt (hexDigit_lt n h)

theorem escaped (c : Char) : Escaped c ((escape c).flatMap Utf8.char) := by
  -- a character has a letter, or is a control, or stands for itself
  by_cases hletter : c ∈ letters.map Prod.fst
  · obtain ⟨p, hp, rfl⟩ := List.mem_map.mp hletter
    obtain ⟨hescape, hback⟩ := escape_letter p hp
    rw [hescape]
    exact .letter hback
  · have hescape : escape c = if c.toNat < 0x20 then
        ['\\', 'u', '0', '0', hexDigit (c.toNat / 16), hexDigit (c.toNat % 16)] else [c] := by
      simp only [letters, List.map_cons, List.map_nil, List.mem_cons, List.not_mem_nil, or_false,
        not_or] at hletter
      simp only [escape, hletter, if_false]
    rw [hescape]
    by_cases hcontrol : c.toNat < 0x20
    · rw [if_pos hcontrol]
      have hbytes : ['\\', 'u', '0', '0', hexDigit (c.toNat / 16), hexDigit (c.toNat % 16)].flatMap
          Utf8.char = [92, 117, 48, 48, hexByte (c.toNat / 16), hexByte (c.toNat % 16)] := by
        simp only [List.flatMap_cons, List.flatMap_nil,
          char_hexDigit (n := c.toNat / 16) (by omega),
          char_hexDigit (n := c.toNat % 16) (by omega)]
        rfl
      rw [hbytes]
      exact .control hcontrol
    · rw [if_neg hcontrol, List.flatMap_singleton]
      refine .plain fun b hb => plain_char (Nat.not_lt.mp hcontrol) ?_ ?_ hb
      · rintro rfl
        exact hletter (by decide)
      · rintro rfl
        exact hletter (by decide)

/-! ### texts -/

/-- The bytes of a text inside quotes. -/
def inQuotes (cs : List Char) : List UInt8 := cs.flatMap fun c => (escape c).flatMap Utf8.char

theorem encode_quote (text : String) :
    Utf8.encode (quote text) = 34 :: (inQuotes text.toList ++ [34]) := by
  rw [quote, Utf8.encode_append, Utf8.encode_append, Utf8.encode_ofList (List.flatMap _ _),
    List.flatMap_assoc]
  rfl

/-! ### from the opening quote -/

/-- The code unit of four digits of base sixteen. -/
def codeUnit? (a b c d : UInt8) : Option Nat :=
  match hexByte? a, hexByte? b, hexByte? c, hexByte? d with
  | some a, some b, some c, some d => some (((a * 16 + b) * 16 + c) * 16 + d)
  | _, _, _, _ => none

/-- From after the opening quote to after the closing one; the bytes need be no UTF-8, and the code
units no characters. -/
inductive Inside : List UInt8 → List UInt8 → Prop
  | close {t : List UInt8} : Inside (34 :: t) t
  | plain {b : UInt8} {s t : List UInt8} (h : Plain b) (rest : Inside s t) : Inside (b :: s) t
  | letter {b : UInt8} {s t : List UInt8} (h : (letterEscape? b).isSome = true)
    (rest : Inside s t) : Inside (92 :: b :: s) t
  | unit {a b c d : UInt8} {s t : List UInt8} (h : (codeUnit? a b c d).isSome = true)
    (rest : Inside s t) : Inside (92 :: 117 :: a :: b :: c :: d :: s) t

/-- The bytes that come of it, escapes replaced by the bytes of their characters. -/
inductive Spells : List UInt8 → List UInt8 → List UInt8 → Prop
  | close {t : List UInt8} : Spells [] (34 :: t) t
  | plain {b : UInt8} {bs s t : List UInt8} (h : Plain b) (rest : Spells bs s t) :
    Spells (b :: bs) (b :: s) t
  | letter {b : UInt8} {char : Char} {bs s t : List UInt8} (h : letterEscape? b = some char)
    (rest : Spells bs s t) : Spells (Utf8.char char ++ bs) (92 :: b :: s) t
  | unit {a b c d : UInt8} {n : Nat} {bs s t : List UInt8} (h : codeUnit? a b c d = some n)
    (single : isLeading n = false ∧ isTrailing n = false) (rest : Spells bs s t) :
    Spells (Utf8.char (Char.ofNat n) ++ bs) (92 :: 117 :: a :: b :: c :: d :: s) t
  | pair {a b c d a' b' c' d' : UInt8} {m n : Nat} {bs s t : List UInt8}
    (h : codeUnit? a b c d = some m) (h' : codeUnit? a' b' c' d' = some n)
    (lead : isLeading m = true) (trail : isTrailing n = true) (rest : Spells bs s t) :
    Spells (Utf8.char (joinSurrogates m n) ++ bs)
      (92 :: 117 :: a :: b :: c :: d :: 92 :: 117 :: a' :: b' :: c' :: d' :: s) t

/-- A text of known content. -/
def Quotes (text : String) (s t : List UInt8) : Prop := Spells (Utf8.encode text) s t

theorem Spells.inside {bs : List UInt8} (h : Spells bs s t) : Inside s t := by
  induction h with
  | close => exact .close
  | plain h _ ih => exact .plain h ih
  | letter h _ ih => exact .letter (h ▸ rfl) ih
  | unit h _ _ ih => exact .unit (h ▸ rfl) ih
  | pair h h' _ _ _ ih => exact .unit (h ▸ rfl) (.unit (h' ▸ rfl) ih)

theorem Quotes.inside {text : String} (h : Quotes text s t) : Inside s t := Spells.inside h

/-! ### what is written -/

theorem Spells.plains {bs : List UInt8} (h : ∀ b ∈ bs, Plain b) {bs' : List UInt8}
    (rest : Spells bs' s t) : Spells (bs ++ bs') (bs ++ s) t := by
  induction bs with
  | nil => exact rest
  | cons b bs ih =>
    obtain ⟨hb, hbs⟩ := List.forall_mem_cons.mp h
    exact .plain hb (ih hbs)

theorem codeUnit?_control {n : Nat} (h : n < 0x20) :
    codeUnit? 48 48 (hexByte (n / 16)) (hexByte (n % 16)) = some n := by
  have hzero : hexByte? 48 = some 0 := by decide
  have hvalue : ((0 * 16 + 0) * 16 + n / 16) * 16 + n % 16 = n := by omega
  unfold codeUnit?
  rw [hzero, hexByte?_hexByte _ (by omega), hexByte?_hexByte _ (by omega)]
  exact congrArg some hvalue

theorem Spells.escaped {c : Char} {e bs : List UInt8} (h : Escaped c e) (rest : Spells bs s t) :
    Spells (Utf8.char c ++ bs) (e ++ s) t := by
  cases h with
  | letter hb => exact .letter hb rest
  | control hc =>
    have hlead : isLeading c.toNat = false := by
      rw [isLeading, decide_eq_false (by omega), Bool.false_and]
    have htrail : isTrailing c.toNat = false := by
      rw [isTrailing, decide_eq_false (by omega), Bool.false_and]
    have hunit := Spells.unit (codeUnit?_control hc) ⟨hlead, htrail⟩ rest
    rwa [Char.ofNat_toNat] at hunit
  | plain hplain => exact rest.plains hplain

/-- What is written in quotes is a text. -/
theorem quotes_inQuotes (text : String) (t : List UInt8) :
    Quotes text (inQuotes text.toList ++ 34 :: t) t := by
  have hall : ∀ cs : List Char, Spells (cs.flatMap Utf8.char) (inQuotes cs ++ 34 :: t) t := by
    intro cs
    induction cs with
    | nil => exact .close
    | cons c cs ih =>
      rw [inQuotes, List.flatMap_cons, List.flatMap_cons, List.append_assoc]
      exact ih.escaped (escaped c)
  rw [Quotes, Utf8.encode_eq]
  exact hall text.toList

end TelemetryGate.Json
