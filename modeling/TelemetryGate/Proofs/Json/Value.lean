import TelemetryGate.Proofs.Json.Number
import TelemetryGate.Proofs.Json.Parts
import TelemetryGate.Proofs.Members

/-!
# Values, read back

* `Regular`             a value as it can be read: objects in order, whole numbers that fit a word,
                        and at most so many brackets inside one another;
* `Integral`            no number with places;
* `encode_record`, `encode_list`   the bytes of an object and of a list, part by part;
* `printed_compact`     the text of such a value is read back, whatever follows.
-/

namespace TelemetryGate

/-! ### values that can be read -/

namespace Json

/-- A value that opens at most so many brackets inside one another, as it can be read. -/
inductive Regular : Nat → Json → Prop
  | null {d : Nat} : Regular d .null
  | flag {d : Nat} (b : Bool) : Regular d (.flag b)
  | whole {d : Nat} {n : Int} (h : Fits n) : Regular d (.whole n)
  | real {d : Nat} (x : Float) : Regular d (.real x)
  | text {d : Nat} (s : String) : Regular d (.text s)
  | list {d : Nat} {items : List Json} (h : ∀ v ∈ items, Regular d v) :
    Regular (d + 1) (.list items)
  | object {d : Nat} {ms : Properties} (hs : Members.Sorted ms) (h : ∀ m ∈ ms, Regular d m.2) :
    Regular (d + 1) (.object ms)

/-- Every number in the value is whole. -/
inductive Integral : Json → Prop
  | null : Integral .null
  | flag (b : Bool) : Integral (.flag b)
  | whole (n : Int) : Integral (.whole n)
  | text (s : String) : Integral (.text s)
  | list {items : List Json} (h : ∀ v ∈ items, Integral v) : Integral (.list items)
  | object {ms : Properties} (h : ∀ m ∈ ms, Integral m.2) : Integral (.object ms)

/-! ### the bytes of lists and objects -/

theorem encode_intercalate (texts : List String) (s : List UInt8) :
    Utf8.encode (String.intercalate "," texts) ++ s =
      commas true (texts.map Utf8.encode) s := by
  induction texts with
  | nil => rw [String.intercalate_nil]; rfl
  | cons text texts ih =>
    cases texts with
    | nil => rw [String.intercalate_singleton]; rfl
    | cons text' texts =>
      rw [String.intercalate_cons_cons, Utf8.encode_append, Utf8.encode_append, List.append_assoc,
        List.append_assoc, ih]
      rfl

theorem encode_record (ms : List (String × String)) (s : List UInt8) :
    Utf8.encode (record ms) ++ s =
      123 :: commas true (ms.map fun m => memberBytes m.1 (Utf8.encode m.2)) (125 :: s) := by
  have hmember : ∀ m : String × String,
      Utf8.encode (quote m.1 ++ ":" ++ m.2) = memberBytes m.1 (Utf8.encode m.2) := by
    intro m
    rw [Utf8.encode_append, Utf8.encode_append, encode_quote, List.append_assoc, List.cons_append,
      List.append_assoc]
    rfl
  rw [record, Utf8.encode_append, Utf8.encode_append, List.append_assoc, List.append_assoc]
  show 123 :: (Utf8.encode _ ++ 125 :: s) = _
  rw [encode_intercalate, List.map_map]
  exact congrArg (fun parts => 123 :: commas true parts (125 :: s))
    (List.map_congr_left fun m _ => hmember m)

theorem compactItems_eq (items : List Json) : compactItems items = items.map compact := by
  induction items with
  | nil => rw [compactItems]; rfl
  | cons v items ih => rw [compactItems, ih, List.map_cons]

theorem compactMembers_eq (ms : Properties) :
    compactMembers ms = ms.map fun m => quote m.1 ++ ":" ++ compact m.2 := by
  induction ms with
  | nil => rw [compactMembers]; rfl
  | cons m ms ih =>
    obtain ⟨name, v⟩ := m
    rw [compactMembers, ih, List.map_cons]

theorem compact_object (ms : Properties) :
    (object ms).compact = record (ms.map fun m => (m.1, m.2.compact)) := by
  rw [compact, compactMembers_eq, record, List.map_map]
  rfl

theorem encode_object (ms : Properties) (s : List UInt8) :
    Utf8.encode (object ms).compact ++ s =
      123 ::
        commas true (ms.map fun m => memberBytes m.1 (Utf8.encode m.2.compact)) (125 :: s) := by
  rw [compact_object, encode_record, List.map_map]
  rfl

theorem encode_list (items : List Json) (s : List UInt8) :
    Utf8.encode (list items).compact ++ s =
      91 :: commas true (items.map fun v => Utf8.encode v.compact) (93 :: s) := by
  rw [compact, compactItems_eq, Utf8.encode_append, Utf8.encode_append, List.append_assoc,
    List.append_assoc]
  show 91 :: (Utf8.encode _ ++ 93 :: s) = _
  rw [encode_intercalate, List.map_map]
  rfl

/-! ### numbers and texts -/

variable {d : Nat} {s t : List UInt8} {b : UInt8} {x : Number}

theorem ne_of_isDigit {c : UInt8} (hb : isDigit b = true) (hc : isDigit c = false) : b ≠ c := by
  rintro rfl
  cases hb.symm.trans hc

theorem not_isBlank_of_isDigit (h : isDigit b = true) : isBlank b = false := by
  rw [isBlank, decide_eq_false (ne_of_isDigit h (by decide)),
    decide_eq_false (ne_of_isDigit h (by decide)), decide_eq_false (ne_of_isDigit h (by decide)),
    decide_eq_false (ne_of_isDigit h (by decide))]
  rfl

theorem reads_digit (hb : isDigit b = true) (h : Reads (scanNumber false) (b :: s) x t) :
    Reads (readValue d) (b :: s) x.toJson t := by
  obtain ⟨h', hscan⟩ := h
  refine ⟨h', ?_⟩
  rw [readValue, ahead_cons (not_isBlank_of_isDigit hb)]
  simp only [if_neg (ne_of_isDigit (c := 'n'.toUInt8) hb (by decide)),
    if_neg (ne_of_isDigit (c := 't'.toUInt8) hb (by decide)),
    if_neg (ne_of_isDigit (c := 'f'.toUInt8) hb (by decide)),
    if_neg (ne_of_isDigit (c := 45) hb (by decide)), if_pos hb, hscan]
  rfl

theorem reads_minus (h : Reads (scanNumber true) s x t) :
    Reads (readValue d) (45 :: s) x.toJson t := by
  obtain ⟨h', hscan⟩ := h
  refine ⟨Nat.lt_succ_of_lt h', ?_⟩
  rw [readValue, ahead_cons (by decide)]
  simp only [hscan]
  rfl

theorem reads_text {text : String} (h : Reads scanText s text t) :
    Reads (readValue d) (34 :: s) (.text text) t := by
  obtain ⟨h', hscan⟩ := h
  refine ⟨Nat.lt_succ_of_lt h', ?_⟩
  rw [readValue, ahead_cons (by decide)]
  simp only [hscan]
  rfl

/-! ### lists and objects -/

theorem reads_list {items : List Json} {h' : t.length ≤ s.length}
    (h : readItems (readValue d) [] s Shorter.same = .ok ⟨(items, t), h'⟩) :
    Reads (readValue (d + 1)) (91 :: s) (.list items) t := by
  refine ⟨Shorter.cons h', ?_⟩
  rw [readValue, ahead_cons (by decide)]
  simp only [h]
  rfl

theorem reads_object {ms : Properties} {h' : t.length ≤ s.length}
    (h : readMembers (readValue d) true [] s Shorter.same = .ok ⟨(ms, t), h'⟩) :
    Reads (readValue (d + 1)) (123 :: s) (.object ms) t := by
  refine ⟨Shorter.cons h', ?_⟩
  rw [readValue, ahead_cons (by decide)]
  simp only [h]
  rfl

/-! ### what is printed -/

theorem printed_of_front {α : Type} {read : Reader α} {v : α} (rest : List UInt8)
    (hb : isBlank b = false) (hne : b ≠ 93) (h : ∀ s, Reads read (b :: (rest ++ s)) v s) :
    Printed read v (b :: rest) :=
  ⟨⟨b, rest, rfl, hb, hne⟩, fun s _ => h s⟩

/-- The values that are written as words. -/
def words : List (Json × List UInt8) :=
  [(.null, [110, 117, 108, 108]), (.flag true, [116, 114, 117, 101]),
    (.flag false, [102, 97, 108, 115, 101])]

theorem reads_word {v : Json} {w : List UInt8} (h : (v, w) ∈ words) (s : List UInt8) :
    Reads (readValue d) (w ++ s) v s := by
  simp only [words, List.mem_cons, List.not_mem_nil, or_false, Prod.mk.injEq] at h
  rcases h with ⟨rfl, rfl⟩ | ⟨rfl, rfl⟩ | ⟨rfl, rfl⟩
  all_goals
    refine ⟨by simp only [List.length_cons, List.length_append]; omega, ?_⟩
    show readValue d (_ :: (_ ++ s)) = _
    rw [readValue, ahead_cons (by decide)]
    rfl

theorem printed_word {w : Json × List UInt8} (hw : w ∈ words) :
    Printed (readValue d) w.1 w.2 := by
  refine ⟨?_, fun s _ => reads_word hw s⟩
  simp only [words, List.mem_cons, List.not_mem_nil, or_false] at hw
  rcases hw with rfl | rfl | rfl
  all_goals exact ⟨_, _, rfl, by decide, by decide⟩

/-- A reader of what follows an opening quote reads a text in quotes. -/
theorem printed_quote {α : Type} {read : Reader α} {v : α} (text : String)
    (h : ∀ s t, Reads scanText s text t → Reads read (34 :: s) v t) :
    Printed read v (Utf8.encode (quote text)) := by
  rw [encode_quote]
  refine printed_of_front _ (by decide) (by decide) fun s => h _ _ ?_
  rw [List.append_assoc]
  exact (quotes_inQuotes text s).reads

theorem printed_whole {n : Int} (h : Fits n) :
    Printed (readValue d) (.whole n) (Utf8.encode (whole n).compact) := by
  rw [compact]
  by_cases hsign : 0 ≤ n
  · obtain ⟨b, bs, hbytes⟩ := List.exists_cons_of_ne_nil (decimals_ne_nil n.toNat)
    have hb : isDigit b = true := decimals_digit b (hbytes ▸ List.mem_cons_self)
    rw [encode_of_nonneg hsign]
    refine ⟨⟨b, bs, hbytes, not_isBlank_of_isDigit hb, ne_of_isDigit hb (by decide)⟩, ?_⟩
    intro s hs
    have hscan := scanNumber_of_nonneg h hsign hs
    rw [hbytes] at hscan ⊢
    exact reads_digit hb hscan
  · have hneg : n < 0 := Int.not_le.mp hsign
    rw [encode_of_neg hneg]
    exact ⟨⟨45, _, rfl, by decide, by decide⟩,
      fun s hs => reads_minus (scanNumber_of_neg h hneg hs)⟩

theorem printed_text (text : String) :
    Printed (readValue d) (.text text) (Utf8.encode (Json.text text).compact) := by
  rw [compact]
  exact printed_quote text fun s t => reads_text

theorem printed_list {items : List Json}
    (h : ∀ v ∈ items, Printed (readValue d) v (Utf8.encode v.compact)) :
    Printed (readValue (d + 1)) (.list items) (Utf8.encode (list items).compact) := by
  have hparts : List.Forall₂ (Printed (readValue d)) items
      (items.map fun v => Utf8.encode v.compact) :=
    List.forall₂_map_right_iff.mpr (List.forall₂_same.mpr h)
  constructor
  · have hbytes := encode_list items []
    rw [List.append_nil] at hbytes
    exact ⟨91, _, hbytes, by decide, by decide⟩
  · intro s _
    obtain ⟨h', hitems⟩ := readItems_commas hparts [] s Shorter.same
    rw [encode_list]
    exact reads_list hitems

/-- A reader of what follows an opening brace reads an object. -/
theorem printed_braces {α : Type} {read : Reader α} {v : α} {ms : Properties}
    (hsorted : Members.Sorted ms)
    (h : ∀ m ∈ ms, Printed (readValue d) m.2 (Utf8.encode m.2.compact))
    (hread : ∀ s t h', readMembers (readValue d) true [] s Shorter.same = .ok ⟨(ms, t), h'⟩ →
      Reads read (123 :: s) v t) :
    Printed read v (Utf8.encode (object ms).compact) := by
  have hparts : List.Forall₂ (fun m part => ∃ bytes, part = memberBytes m.1 bytes ∧
      Printed (readValue d) m.2 bytes) ms
      (ms.map fun m => memberBytes m.1 (Utf8.encode m.2.compact)) :=
    List.forall₂_map_right_iff.mpr (List.forall₂_same.mpr fun m hm => ⟨_, rfl, h m hm⟩)
  constructor
  · have hbytes := encode_object ms []
    rw [List.append_nil] at hbytes
    exact ⟨123, _, hbytes, by decide, by decide⟩
  · intro s _
    obtain ⟨h', hmembers⟩ := readMembers_commas hparts true [] s Shorter.same
    rw [Members.extend_of_sorted (a := []) hsorted] at hmembers
    rw [encode_object]
    exact hread _ s h' hmembers

theorem printed_object {ms : Properties} (hsorted : Members.Sorted ms)
    (h : ∀ m ∈ ms, Printed (readValue d) m.2 (Utf8.encode m.2.compact)) :
    Printed (readValue (d + 1)) (.object ms) (Utf8.encode (object ms).compact) :=
  printed_braces hsorted h fun _ _ _ hmembers => reads_object hmembers

/-- **The text of a value that can be read is read back, whatever follows that stops.** -/
theorem printed_compact {v : Json} (h : Regular d v) (hi : Integral v) :
    Printed (readValue d) v (Utf8.encode v.compact) := by
  induction h with
  | null => exact printed_word (w := (.null, [110, 117, 108, 108])) (by simp [words])
  | flag b =>
    cases b with
    | true => exact printed_word (w := (.flag true, [116, 114, 117, 101])) (by simp [words])
    | false => exact printed_word (w := (.flag false, [102, 97, 108, 115, 101])) (by simp [words])
  | whole h => exact printed_whole h
  | real x => cases hi
  | text s => exact printed_text s
  | list _ ih =>
    cases hi with
    | list hi => exact printed_list fun v hv => ih v hv (hi v hv)
  | object hsorted _ ih =>
    cases hi with
    | object hi => exact printed_object hsorted fun m hm => ih m hm (hi m hm)

/-! ### values of slots -/

theorem reads_readText {wanted text : String} (h : Reads scanText s text t) :
    Reads (readText wanted) (34 :: s) text t := by
  obtain ⟨h', hscan⟩ := h
  refine ⟨Nat.lt_succ_of_lt h', ?_⟩
  rw [readText, ahead_cons (by decide)]
  simp only [if_true, hscan]
  rfl

theorem reads_readMap {α : Type} {value : Nat → Reader α} {ms : Members α}
    {h' : t.length ≤ s.length}
    (h : readMembers (value d) true [] s Shorter.same = .ok ⟨(ms, t), h'⟩) :
    Reads (readMap (d + 1) value) (123 :: s) ms t := by
  refine ⟨Shorter.cons h', ?_⟩
  rw [readMap, ahead_cons (by decide)]
  simp only [if_true, h]
  rfl

theorem printed_readText (wanted text : String) :
    Printed (readText wanted) text (Utf8.encode (quote text)) :=
  printed_quote text fun _ _ => reads_readText

theorem printed_readMap {ms : Properties} (h : Regular (d + 1) (.object ms))
    (hi : Integral (.object ms)) :
    Printed (readMap (d + 1) readValue) ms (Utf8.encode (object ms).compact) := by
  cases h with
  | object hsorted h =>
    cases hi with
    | object hi =>
      exact printed_braces hsorted (fun m hm => printed_compact (h m hm) (hi m hm))
        fun _ _ _ hmembers => reads_readMap hmembers

theorem reads_present {α : Type} {read : Reader α} {v : α} (hblank : isBlank b = false)
    (hnull : b ≠ 110) (h : Reads read (b :: s) v t) :
    Reads (readOptional read) (b :: s) (some v) t := by
  obtain ⟨h', hread⟩ := h
  have hn : b ≠ 'n'.toUInt8 := hnull
  refine ⟨h', ?_⟩
  rw [readOptional, ahead_cons hblank]
  simp only [if_neg hn, hread]
  rfl

/-- What does not begin as null is there. -/
theorem Printed.present {α : Type} {read : Reader α} {v : α} {rest : List UInt8}
    (hnull : b ≠ 110) (h : Printed read v (b :: rest)) :
    Printed (readOptional read) (some v) (b :: rest) := by
  refine ⟨h.front, fun s hs => ?_⟩
  obtain ⟨b', rest', hbytes, hblank, _⟩ := h.front
  cases hbytes
  exact reads_present hblank hnull (h.reads s hs)

theorem printed_present_text (text : String) :
    Printed (readKind d (.optional .text)) (some text) (Utf8.encode (quote text)) := by
  have h := printed_readText "a string" text
  rw [encode_quote] at h ⊢
  exact h.present (by decide)

theorem reads_readWhole? {limit n : Nat} (wanted : String) (hb : isDigit b = true)
    (hn : n ≤ limit) (h : Reads (scanNumber false) (b :: s) (.whole n) t) :
    Reads (readWhole? limit wanted) (b :: s) n t := by
  obtain ⟨h', hscan⟩ := h
  have hwithin : (0 : Int) ≤ n ∧ (n : Int) ≤ limit := by omega
  refine ⟨h', ?_⟩
  rw [readWhole?, ahead_cons (not_isBlank_of_isDigit hb)]
  simp only [if_neg (ne_of_isDigit (c := 45) hb (by decide)), if_pos hb, hscan, if_pos hwithin]
  rfl

/-- A number that is not too great is read back. -/
theorem printed_readWhole? {limit n : Nat} (wanted : String) (hn : n ≤ limit)
    (hlimit : limit ≤ Word.most) :
    Printed (readWhole? limit wanted) n (Utf8.encode (toString n)) := by
  have hfits : Fits n := by
    unfold Fits
    omega
  have hbytes : Utf8.encode (toString n) = decimals n := encode_repr n
  obtain ⟨b, bs, hfront, hb⟩ := decimals_cons n
  rw [hbytes]
  refine ⟨⟨b, bs, hfront, not_isBlank_of_isDigit hb, ne_of_isDigit hb (by decide)⟩, ?_⟩
  intro s hs
  have hscan := scanNumber_of_nonneg hfits (Int.natCast_nonneg n) hs
  rw [Int.toNat_natCast, hfront] at hscan
  rw [hfront]
  exact reads_readWhole? wanted hb hn hscan

end Json

end TelemetryGate
