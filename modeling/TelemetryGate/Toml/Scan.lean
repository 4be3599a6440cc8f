import TelemetryGate.Read
import TelemetryGate.Word
import TelemetryGate.Toml
import TelemetryGate.Text.Ranges
import TelemetryGate.Decimal.Reading

/-!
# The words of a Toml document

* `skipSpace`, `skipComment?`, `skipGap?`   past what separates words;
* `scanText?`       a text in one of its four kinds of quotes;
* `scanKey?`        a name;
* `scalar?`         the value of a word without quotes.
-/

namespace TelemetryGate.Toml

/-- The value at the front of some characters, if it is well formed. -/
abbrev Reader (α : Type) : Type := (s : List Char) → Option (Read α s)

/-! ### between words -/

/-- whether a character is a space or a tab -/
def isSpace (c : Char) : Bool := c = ' ' || c = '\t'

def skipSpace : List Char → List Char
  | [] => []
  | c :: rest => if isSpace c then skipSpace rest else c :: rest

theorem skipSpace_length (s : List Char) : (skipSpace s).length ≤ s.length := by
  induction s with
  | nil => simp [skipSpace]
  | cons c rest ih =>
    unfold skipSpace
    split
    · simp only [List.length_cons]; omega
    · exact Nat.le_refl _

def ahead (s : List Char) : Option (Read Char s) :=
  match s with
  | [] => none
  | c :: rest =>
    if isSpace c then (ahead rest).map (Read.widen Shorter.tail_le)
    else some ⟨c, rest, Shorter.tail⟩

/-- whether a character may stand in a text or a comment as itself -/
def isPrintable (c : Char) : Bool := c = '\t' || (0x20 ≤ c.toNat && c.toNat ≠ 0x7F)

def skipPrintable : List Char → List Char
  | [] => []
  | c :: rest => if isPrintable c then skipPrintable rest else c :: rest

theorem skipPrintable_length (s : List Char) : (skipPrintable s).length ≤ s.length := by
  induction s with
  | nil => simp [skipPrintable]
  | cons c rest ih =>
    unfold skipPrintable
    split
    · simp only [List.length_cons]; omega
    · exact Nat.le_refl _

def skipNewline? : List Char → Option (List Char)
  | '\n' :: rest => some rest
  | '\r' :: '\n' :: rest => some rest
  | _ => none

theorem skipNewline?_length {s t : List Char} (h : skipNewline? s = some t) :
    t.length < s.length := by
  unfold skipNewline? at h
  split at h <;> cases h <;> simp only [List.length_cons] <;> omega

/-- What follows spaces, a comment and the end of the line; nothing may follow at the end of the
document. -/
def endLine? (s : List Char) : Option { t : List Char // t.length ≤ s.length } :=
  have h := skipSpace_length s
  match hq : skipSpace s with
  | [] => some ⟨[], by simp⟩
  | '#' :: rest =>
    have hp := skipPrintable_length rest
    match hr : skipPrintable rest with
    | [] => some ⟨[], by simp⟩
    | c :: after =>
      match hn : skipNewline? (c :: after) with
      | some t => some ⟨t, by
          have := skipNewline?_length hn
          rw [hr] at hp; rw [hq] at h
          simp only [List.length_cons] at *
          omega⟩
      | none => none
  | c :: rest =>
    match hn : skipNewline? (c :: rest) with
    | some t => some ⟨t, by
        have := skipNewline?_length hn
        rw [hq] at h
        omega⟩
    | none => none

def skipGap? {s₀ : List Char} (s : List Char) (hs : s.length ≤ s₀.length) :
    Option { t : List Char // t.length ≤ s₀.length } :=
  match s with
  | [] => some ⟨[], by simp⟩
  | c :: rest =>
    have hr : rest.length ≤ s₀.length := by simp only [List.length_cons] at hs; omega
    if isSpace c then skipGap? rest hr
    else if c = '#' then
      have hp := skipPrintable_length rest
      skipGap? (skipPrintable rest) (by omega)
    else
      match hn : skipNewline? (c :: rest) with
      | some t => skipGap? t (by have := skipNewline?_length hn; omega)
      | none => if c = '\r' then none else some ⟨c :: rest, hs⟩
termination_by s.length
decreasing_by
  · simp
  · have := skipPrintable_length rest; simp only [List.length_cons]; omega
  · exact skipNewline?_length ‹_›

def aheadGap? (s : List Char) : Option (Read Char s) :=
  match skipGap? s Shorter.same with
  | some ⟨c :: rest, h⟩ => some ⟨c, rest, Shorter.of_front h⟩
  | _ => none

/-! ### texts -/

def scanCodePoint? (width : Nat) (s : List Char) : Option (Char × List Char) :=
  let ds := s.take width
  if ds.length = width && ds.all fun c => (Text.hexValue? c).isSome then
    let n := Text.hexNumber ds
    if n.isValidChar then some (Char.ofNat n, s.drop width) else none
  else none

def scanEscape? : List Char → Option (Char × List Char)
  | 'b' :: rest => some ('\x08', rest)
  | 't' :: rest => some ('\t', rest)
  | 'n' :: rest => some ('\n', rest)
  | 'f' :: rest => some ('\x0c', rest)
  | 'r' :: rest => some ('\r', rest)
  | '"' :: rest => some ('"', rest)
  | '\\' :: rest => some ('\\', rest)
  | 'u' :: rest => scanCodePoint? 4 rest
  | 'U' :: rest => scanCodePoint? 8 rest
  | _ => none

theorem scanCodePoint?_length {width : Nat} {s t : List Char} {c : Char}
    (h : scanCodePoint? width s = some (c, t)) : t.length ≤ s.length := by
  unfold scanCodePoint? at h
  simp only at h
  split at h
  · split at h
    · cases h; simp
    · cases h
  · cases h

theorem scanEscape?_length {s t : List Char} {c : Char} (h : scanEscape? s = some (c, t)) :
    t.length ≤ s.length := by
  unfold scanEscape? at h
  split at h
  all_goals first
    | (cases h; done)
    | (cases h; simp)
    | (have hl := scanCodePoint?_length h; simp only [List.length_cons]; omega)

/-- What follows a backslash at the end of a line: the blanks up to the next word. -/
def skipFold (s : List Char) : List Char :=
  s.dropWhile fun c => isSpace c || c = '\n' || c = '\r'

theorem skipFold_length (s : List Char) : (skipFold s).length ≤ s.length :=
  (List.dropWhile_suffix _).length_le

def atLineEnd (s : List Char) : Bool := (skipNewline? (skipSpace s)).isSome

/-- The characters up to a closing quote, in front of `acc` in reverse; escapes are replaced. -/
def scanBasic {s₀ : List Char} (acc : List Char) (s : List Char) (hs : s.length ≤ s₀.length) :
    Option (Read (List Char) s₀) :=
  match s with
  | [] => none
  | c :: rest =>
    have hr : rest.length < s₀.length := by simp only [List.length_cons] at hs; omega
    if c = '"' then some ⟨acc, rest, hr⟩
    else if c = '\\' then
      match he : scanEscape? rest with
      | some (d, t) => scanBasic (d :: acc) t (by have := scanEscape?_length he; omega)
      | none => none
    else if isPrintable c then scanBasic (c :: acc) rest (by omega)
    else none
termination_by s.length
decreasing_by
  · have := scanEscape?_length ‹_›; simp only [List.length_cons]; omega
  · simp

def scanLiteral {s₀ : List Char} (acc : List Char) (s : List Char) (hs : s.length ≤ s₀.length) :
    Option (Read (List Char) s₀) :=
  match s with
  | [] => none
  | c :: rest =>
    have hr : rest.length < s₀.length := by simp only [List.length_cons] at hs; omega
    if c = '\'' then some ⟨acc, rest, hr⟩
    else if isPrintable c then scanLiteral (c :: acc) rest (by omega)
    else none

def countFront (q : Char) (s : List Char) : Nat := (s.takeWhile (· = q)).length

/-- The characters of a text over several lines up to three closing quotes, in front of `acc` in
reverse; one or two quotes before them belong to the text. -/
def scanLines (q : Char) {s₀ : List Char} (acc : List Char) (s : List Char)
    (hs : s.length ≤ s₀.length) : Option (Read (List Char) s₀) :=
  match s with
  | [] => none
  | c :: rest =>
    have hr : rest.length < s₀.length := by simp only [List.length_cons] at hs; omega
    if c = q then
      let n := countFront q (c :: rest)
      if 5 < n then none
      else if 3 ≤ n then
        some ⟨List.replicate (n - 3) q ++ acc, rest.drop (n - 1), by
          simp only [List.length_drop]; omega⟩
      else scanLines q (q :: acc) rest (by omega)
    else if c = '\\' && q = '"' then
      if atLineEnd rest then
        have hf := skipFold_length rest
        scanLines q acc (skipFold rest) (by omega)
      else
        match he : scanEscape? rest with
        | some (d, t) => scanLines q (d :: acc) t (by have := scanEscape?_length he; omega)
        | none => none
    else if isPrintable c then scanLines q (c :: acc) rest (by omega)
    else
      match hn : skipNewline? (c :: rest) with
      | some t => scanLines q ('\n' :: acc) t (by have := skipNewline?_length hn; omega)
      | none => none
termination_by s.length
decreasing_by
  · simp
  · have := skipFold_length rest; simp only [List.length_cons]; omega
  · have := scanEscape?_length ‹_›; simp only [List.length_cons]; omega
  · simp
  · exact skipNewline?_length ‹_›

/-- what follows a line end right after three opening quotes -/
def afterOpening (s : List Char) : List Char := (skipNewline? s).getD s

theorem afterOpening_length (s : List Char) : (afterOpening s).length ≤ s.length := by
  unfold afterOpening
  cases h : skipNewline? s with
  | none => exact Nat.le_refl _
  | some t => exact Nat.le_of_lt (skipNewline?_length h)

def textOf {s : List Char} (r : Read (List Char) s) : Read String s :=
  r.map fun acc => String.ofList acc.reverse

/-- A text in quotes; `lines` says whether it may go over several lines. -/
def scanText? (lines : Bool) (s : List Char) : Option (Read String s) :=
  match s with
  | '"' :: '"' :: '"' :: rest =>
    if lines then
      have h := afterOpening_length rest
      (scanLines '"' [] (afterOpening rest) (by simp only [List.length_cons]; omega)).map textOf
    else (scanBasic [] ('"' :: '"' :: rest) (by simp)).map textOf
  | '\'' :: '\'' :: '\'' :: rest =>
    if lines then
      have h := afterOpening_length rest
      (scanLines '\'' [] (afterOpening rest) (by simp only [List.length_cons]; omega)).map textOf
    else (scanLiteral [] ('\'' :: '\'' :: rest) (by simp)).map textOf
  | '"' :: rest => (scanBasic [] rest (by simp)).map textOf
  | '\'' :: rest => (scanLiteral [] rest (by simp)).map textOf
  | _ => none

/-! ### names -/

def isBare (c : Char) : Bool := c.isAlphanum || c = '_' || c = '-'

theorem dropWhile_length (p : Char → Bool) (s : List Char) :
    (s.dropWhile p).length ≤ s.length :=
  (List.dropWhile_suffix _).length_le

def scanName? (s : List Char) : Option (Read String s) :=
  match s with
  | [] => none
  | c :: rest =>
    if c = '"' || c = '\'' then scanText? false (c :: rest)
    else if isBare c then
      some ⟨String.ofList (c :: rest.takeWhile isBare), rest.dropWhile isBare, by
        have := dropWhile_length isBare rest; simp only [List.length_cons]; omega⟩
    else none

/-- Names apart by full stops, after those in `acc`, which are in reverse. -/
def scanNames {s₀ : List Char} (acc : List String) (s : List Char) (hs : s.length ≤ s₀.length) :
    Option (Read (List String) s₀) :=
  match scanName? s with
  | none => none
  | some ⟨name, t, h⟩ =>
    match ahead t with
    | some ⟨'.', rest, hr⟩ =>
      have hc := skipSpace_length rest
      scanNames (name :: acc) (skipSpace rest) (by omega)
    | _ => some ⟨(name :: acc).reverse, t, Shorter.within h hs⟩
termination_by s.length
decreasing_by omega

def maxNames : Nat := 79

def scanKey? (s : List Char) : Option (Read (List String) s) :=
  (scanNames [] s Shorter.same).filter fun r => r.value.length ≤ maxNames

/-! ### words without quotes -/

/-- Digits of a base with single underscores between them. -/
def digitsOf? (isDigit : Char → Bool) : List Char → Option (List Char)
  | [] => none
  | [c] => if isDigit c then some [c] else none
  | c :: '_' :: rest => if isDigit c then (digitsOf? isDigit rest).map (c :: ·) else none
  | c :: rest => if isDigit c then (digitsOf? isDigit rest).map (c :: ·) else none

/-- decimal digits without a zero before them -/
def plainDigits? (s : List Char) : Option (List Char) :=
  match s with
  | '0' :: _ :: _ => none
  | s => digitsOf? Char.isDigit s

def fitting? (n : Int) : Option Toml :=
  if Word.isSigned n then some (.whole n) else none

def based? (base : Nat) (s : List Char) : Option Toml :=
  let isDigit (c : Char) : Bool := match Text.hexValue? c with | some d => d < base | none => false
  (digitsOf? isDigit s).bind fun ds =>
    fitting? (ds.foldl (fun n c => base * n + (Text.hexValue? c).getD 0) 0)

def whole? (s : List Char) : Option Toml :=
  let (negative, ds) := Decimal.takeSign s
  (plainDigits? ds).bind fun ds =>
    fitting? (if negative then -(Decimal.ofDigits ds) else Decimal.ofDigits ds)

/-- A number with a point or an exponent; none if it is beyond every double. -/
def real? (s : List Char) : Option Toml :=
  let (negative, body) := Decimal.takeSign s
  let signed (x : Float) : Toml := .real (if negative then -x else x)
  if body = ['i', 'n', 'f'] then some (signed (Float.ofBits Decimal.infinityBits.toUInt64))
  else if body = ['n', 'a', 'n'] then some (signed (Float.ofBits 0x7FF8000000000000))
  else
    let mantissa := body.takeWhile fun c => !Decimal.isExponentMark c
    let power := body.drop mantissa.length
    let whole := mantissa.takeWhile (· ≠ '.')
    let places := mantissa.drop whole.length
    let places? := if places.isEmpty then some [] else digitsOf? Char.isDigit places.tail
    let power? : Option Int :=
      if power.isEmpty then some 0
      else
        let (down, ds) := Decimal.takeSign power.tail
        (digitsOf? Char.isDigit ds).map fun ds =>
          if down then -(Decimal.ofDigits ds : Int) else (Decimal.ofDigits ds : Int)
    match plainDigits? whole, places?, power? with
    | some ws, some ps, some e =>
      if places.isEmpty && power.isEmpty then none
      else
        let x := Decimal.scaled (Decimal.ofDigits (ws ++ ps)) (e - ps.length)
        if x.isInf && !negative then none else some (signed x)
    | _, _, _ => none

/-! ### dates and times -/

def two? (most : Nat) (s : List Char) : Option (Nat × List Char) :=
  match s with
  | a :: b :: rest =>
    if a.isDigit && b.isDigit && Decimal.ofDigits [a, b] ≤ most then
      some (Decimal.ofDigits [a, b], rest)
    else none
  | _ => none

def daysIn (year month : Nat) : Nat :=
  if month = 2 then
    if year % 4 = 0 && (year % 100 ≠ 0 || year % 400 = 0) then 29 else 28
  else if [4, 6, 9, 11].contains month then 30
  else 31

def date? (s : List Char) : Option (List Char × List Char) :=
  let year := s.take 4
  match year.length = 4 && year.all Char.isDigit, s.drop 4 with
  | true, '-' :: rest =>
    match two? 12 rest with
    | some (month, '-' :: rest') =>
      match two? (daysIn (Decimal.ofDigits year) month) rest' with
      | some (day, after) =>
        if month = 0 || day = 0 then none else some (s.take 10, after)
      | none => none
    | _ => none
  | _, _ => none

/-- the places of a second: at most nine, zeros at the end left out -/
def fraction (ds : List Char) : List Char :=
  let kept := (((ds.take 9).reverse.dropWhile (· = '0'))).reverse
  if kept.isEmpty then [] else '.' :: kept

def time? (s : List Char) : Option (List Char × List Char) :=
  match two? 23 s with
  | some (_, ':' :: r₁) =>
    match two? 59 r₁ with
    | some (_, ':' :: r₂) =>
      match two? 60 r₂ with
      | some (_, '.' :: r₃) =>
        let ds := r₃.takeWhile Char.isDigit
        if ds.isEmpty then none else some (s.take 8 ++ fraction ds, r₃.drop ds.length)
      | some (_, r₃) => some (s.take 8, r₃)
      | none => none
    | _ => none
  | _ => none

/-- The distance from universal time, which is all that is left. -/
def zone? (s : List Char) : Option (List Char) :=
  match s with
  | ['Z'] => some ['Z']
  | ['z'] => some ['Z']
  | sign :: rest =>
    if sign = '+' || sign = '-' then
      match two? 23 rest with
      | some (h, ':' :: r) =>
        match two? 59 r with
        | some (m, []) =>
          some ((if h = 0 && m = 0 then '+' else sign) :: rest)
        | _ => none
      | _ => none
    else none
  | [] => none

def moment? (s : List Char) : Option Toml :=
  let made (cs : List Char) : Toml := .moment (String.ofList cs)
  match date? s with
  | some (d, []) => some (made d)
  | some (d, c :: rest) =>
    if ['T', 't', ' '].contains c then
      match time? rest with
      | some (t, []) => some (made (d ++ 'T' :: t))
      | some (t, z) => (zone? z).map fun z => made (d ++ 'T' :: t ++ z)
      | none => none
    else none
  | none =>
    match time? s with
    | some (t, []) => some (made t)
    | _ => none

def scalar? (s : List Char) : Option Toml :=
  if s = ['t', 'r', 'u', 'e'] then some (.flag true)
  else if s = ['f', 'a', 'l', 's', 'e'] then some (.flag false)
  else
    match s with
    | '0' :: 'x' :: rest => based? 16 rest
    | '0' :: 'o' :: rest => based? 8 rest
    | '0' :: 'b' :: rest => based? 2 rest
    | s =>
      match moment? s, real? s with
      | some v, _ => some v
      | none, some v => some v
      | none, none => whole? s

def isWordChar (c : Char) : Bool := c.isAlphanum || ['_', '+', '-', '.', ':'].contains c

/-- A word without quotes: a date and a time may have a space between them. -/
def scanScalar? (s : List Char) : Option (Read Toml s) :=
  let w := s.takeWhile isWordChar
  let more := match s.drop w.length with
    | ' ' :: rest =>
      if (date? w).map Prod.snd = some [] && (two? 23 rest).isSome then
        1 + (rest.takeWhile isWordChar).length
      else 0
    | _ => 0
  let n := w.length + more
  if h : 0 < n ∧ n ≤ s.length then
    (scalar? (s.take n)).map fun v => ⟨v, s.drop n, by simp only [List.length_drop]; omega⟩
  else none

end TelemetryGate.Toml
