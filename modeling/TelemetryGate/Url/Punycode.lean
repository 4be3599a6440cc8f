/-!
# Characters beyond ASCII as digits

The characters of a label beyond ASCII are counted through the code points and the places of the
label; the counts are written as digits of base 36 of varying weight (bootstring).

* `encode`    the ASCII form of a label, without its mark `xn--`;
* `decode?`   the label of an ASCII form.
-/

namespace TelemetryGate.Url.Punycode

/-- how far a digit at place `k` (a multiple of 36) reaches -/
def threshold (bias k : Nat) : Nat :=
  if k ≤ bias then 1 else if bias + 26 ≤ k then 26 else k - bias

theorem threshold_pos (bias k : Nat) : 1 ≤ threshold bias k := by
  unfold threshold; split <;> (try split) <;> omega

/-- how often a count is divided by 35 until it is small -/
def shrink (k delta : Nat) : Nat :=
  if delta ≤ 455 then k + 36 * delta / (delta + 38) else shrink (k + 36) (delta / 35)
termination_by delta
decreasing_by omega

/-- The bias after a count: large counts make the next digits reach further. -/
def adapt (first : Bool) (delta places : Nat) : Nat :=
  let d := if first then delta / 700 else delta / 2
  shrink 0 (d + d / places)

def digitChar (d : Nat) : Char := if d < 26 then Char.ofNat (97 + d) else Char.ofNat (22 + d)

def digitValue? (c : Char) : Option Nat :=
  if 'a' ≤ c && c ≤ 'z' then some (c.toNat - 97)
  else if 'A' ≤ c && c ≤ 'Z' then some (c.toNat - 65)
  else if '0' ≤ c && c ≤ '9' then some (c.toNat - 22)
  else none

/-! ### writing -/

def digits (bias k q : Nat) : List Char :=
  if q < threshold bias k then [digitChar q]
  else
    let above := q - threshold bias k
    let radix := 36 - threshold bias k
    digitChar (threshold bias k + above % radix) :: digits bias (k + 36) (above / radix)
termination_by q
decreasing_by
  have h₁ := threshold_pos bias k
  have h₂ : (q - threshold bias k) / (36 - threshold bias k) ≤ q - threshold bias k :=
    Nat.div_le_self _ _
  show (q - threshold bias k) / (36 - threshold bias k) < q
  omega

/-- Where the writing stands: the count so far, the bias, how many characters are written, and the
digits in reverse. -/
structure Writing where
  delta : Nat
  bias : Nat
  written : Nat
  basic : Nat
  out : List Char

/-- Passes a character of the label while the code point `n` is at hand. -/
def Writing.pass (n : Nat) (w : Writing) (c : Char) : Writing :=
  if c.toNat < n then { w with delta := w.delta + 1 }
  else if c.toNat = n then
    { w with
      delta := 0
      bias := adapt (w.written = w.basic) w.delta (w.written + 1)
      written := w.written + 1
      out := (digits w.bias 36 w.delta).reverse ++ w.out }
  else w

/-- Passes the label once for each code point, in rising order; `n` is the first not yet passed. -/
def Writing.run (label : List Char) (w : Writing) (n : Nat) : List Nat → Writing
  | [] => w
  | m :: rest =>
    let w := label.foldl (Writing.pass m)
      { w with delta := w.delta + (m - n) * (w.written + 1) }
    Writing.run label { w with delta := w.delta + 1 } (m + 1) rest

/-- The code points of a label beyond ASCII, in rising order, each once. -/
def codePoints (label : List Char) : List Nat :=
  (((label.map Char.toNat).filter (128 ≤ ·)).mergeSort (· ≤ ·)).eraseDups

def encode (label : List Char) : List Char :=
  let basic := label.filter fun c => c.toNat < 128
  let start : Writing := ⟨0, 72, basic.length, basic.length,
    if basic.isEmpty then [] else '-' :: basic.reverse⟩
  (start.run label 128 (codePoints label)).out.reverse

/-! ### reading -/

/-- The count that starts at the head, and what follows its digits. -/
def takeCount (bias : Nat) (k weight count : Nat) : List Char → Option (Nat × List Char)
  | [] => none
  | c :: rest =>
    match digitValue? c with
    | none => none
    | some d =>
      let t := threshold bias k
      let count := count + d * weight
      if d < t then some (count, rest)
      else takeCount bias (k + 36) (weight * (36 - t)) count rest

theorem takeCount_length {bias k weight count n : Nat} {cs rest : List Char}
    (h : takeCount bias k weight count cs = some (n, rest)) : rest.length < cs.length := by
  induction cs generalizing k weight count with
  | nil => simp [takeCount] at h
  | cons c cs ih =>
    unfold takeCount at h
    split at h
    · cases h
    · simp only at h
      split at h
      · cases h; simp
      · have := ih h; simp only [List.length_cons]; omega

/-- Reads counts and inserts their characters: `n` is the code point and `i` the place reached. -/
def insertAll (label : List Char) (n i bias : Nat) (cs : List Char) : Option (List Char) :=
  match cs with
  | [] => some label
  | c :: rest =>
    match _h : takeCount bias 36 1 i (c :: rest) with
    | none => none
    | some (total, after) =>
      let places := label.length + 1
      let m := n + total / places
      let j := total % places
      if m.isValidChar && total < 0x80000000 then
        insertAll (label.take j ++ Char.ofNat m :: label.drop j) m (j + 1)
          (adapt (i = 0) (total - i) places) after
      else none
termination_by cs.length
decreasing_by exact takeCount_length _h

def decode? (cs : List Char) : Option (List Char) :=
  let tail := (cs.reverse.takeWhile (· ≠ '-')).reverse
  let basic := cs.take (cs.length - tail.length - 1)
  if tail.length = cs.length then insertAll [] 128 0 72 cs
  else if basic.isEmpty then none
  else insertAll basic 128 0 72 tail

end TelemetryGate.Url.Punycode
