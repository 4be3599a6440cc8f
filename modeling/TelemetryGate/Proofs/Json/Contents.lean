import TelemetryGate.Proofs.Json.Numerals
import TelemetryGate.Proofs.Json.Quotes

/-!
# Values that are read

* `outcome`, `SkipsBlanks`   what a reader gives, wherever it is seen from;
* `Denotes.reads`            a value with a content is read, and that is what is read;
* `Derives.rest_eq`          a value that is well formed is read to its end, if it is read.
-/

namespace TelemetryGate.Json

variable {α β : Type} {s₀ s t u : List UInt8} {b : UInt8} {d : Nat}

/-! ### blanks in front -/

/-- What was read and what follows, or the fault. -/
def outcome (x : Except Fault (Read α s)) : Except Fault (α × List UInt8) :=
  x.map fun r => (r.value, r.rest)

theorem reads_iff {read : Reader α} {v : α} :
    Reads read s v t ↔ outcome (read s) = .ok (v, t) := by
  constructor
  · rintro ⟨h, hread⟩
    rw [hread]
    rfl
  · intro h
    obtain ⟨⟨v', t', hlt⟩, hread, heq⟩ := map_ok h
    cases heq
    exact ⟨hlt, hread⟩

theorem outcome_widen (h : t.length ≤ s.length) (x : Except Fault (Read α t)) :
    outcome (x.map (Read.widen h)) = outcome x := by
  cases x with
  | error f => rfl
  | ok r => rfl

/-- Blanks in front make no difference to the reader. -/
def SkipsBlanks (read : Reader α) : Prop :=
  ∀ s t, Blanks s t → outcome (read s) = outcome (read t)

theorem skipsBlanks_readValue (d : Nat) : SkipsBlanks (readValue d) := by
  intro s t h
  rw [readValue, readValue, ahead_blanks h]
  cases ahead t with
  | none => rfl
  | some r =>
    dsimp only [Option.map_some, Read.widen]
    rw [outcome_widen, outcome_widen]

theorem skipsBlanks_readText (wanted : String) : SkipsBlanks (readText wanted) := by
  intro s t h
  rw [readText, readText, ahead_blanks h]
  cases ahead t with
  | none => rfl
  | some r =>
    obtain ⟨b, rest, hr⟩ := r
    dsimp only [Option.map_some, Read.widen]
    by_cases hb : b = 34
    · rw [if_pos hb, if_pos hb, outcome_widen, outcome_widen]
    · rw [if_neg hb, if_neg hb]
      rfl

theorem skipsBlanks_readOptional (read : Reader α) : SkipsBlanks (readOptional read) := by
  intro s t h
  rw [readOptional, readOptional, ahead_blanks h]
  cases ahead t with
  | none => rfl
  | some r =>
    obtain ⟨b, rest, hr⟩ := r
    dsimp only [Option.map_some, Read.widen]
    by_cases hb : b = 'n'.toUInt8
    · rw [if_pos hb, if_pos hb, outcome_widen, outcome_widen]
    · rw [if_neg hb, if_neg hb]
      cases read (b :: rest) with
      | error f => rfl
      | ok r => rfl

theorem skipsBlanks_readMap (depth : Nat) (value : Nat → Reader α) :
    SkipsBlanks (readMap depth value) := by
  intro s t h
  rw [readMap, readMap, ahead_blanks h]
  cases ahead t with
  | none => rfl
  | some r =>
    obtain ⟨b, rest, hr⟩ := r
    dsimp only [Option.map_some, Read.widen]
    by_cases hb : b = 123
    · rw [if_pos hb, if_pos hb]
      cases depth with
      | zero => rfl
      | succ d =>
        dsimp only
        cases readMembers (value d) true [] rest Shorter.same with
        | error f => rfl
        | ok p => rfl
    · rw [if_neg hb, if_neg hb]
      rfl

theorem SkipsBlanks.reads {read : Reader α} (hread : SkipsBlanks read) {v : α} (h : Blanks s u)
    (hv : Reads read u v t) : Reads read s v t :=
  reads_iff.mpr ((hread s u h).trans (reads_iff.mp hv))

/-- What was read after blanks would have been read without them. -/
theorem SkipsBlanks.of_ok {read : Reader α} (hread : SkipsBlanks read) (h : Blanks s u)
    {r : Read α s} (hr : read s = .ok r) :
    ∃ r', read u = .ok r' ∧ r'.value = r.value ∧ r'.rest = r.rest := by
  have heq := hread s u h
  rw [hr] at heq
  obtain ⟨r', hr', hpair⟩ := map_ok heq.symm
  exact ⟨r', hr', congrArg Prod.fst hpair, congrArg Prod.snd hpair⟩

/-! ### content -/

/-- What is read from each place in a text that has content. -/
def Content.Read (d : Nat) : Content → List UInt8 → List UInt8 → Prop
  | .value v, s, t => Reads (readValue d) s v t
  | .items first vs, s, t => ∀ (s₀ : List UInt8) (acc : List Json) (hs : s.length ≤ s₀.length),
    acc.isEmpty = first →
      ∃ h', readItems (readValue d) acc s hs = .ok ⟨(acc.reverse ++ vs, t), h'⟩
  | .members first ms, s, t => ∀ (s₀ : List UInt8) (acc : Properties) (hs : s.length ≤ s₀.length),
    ∃ h', readMembers (readValue d) first acc s hs = .ok ⟨(Members.extend acc ms, t), h'⟩

theorem Denotes.read {content : Content} (h : Denotes d content s t) : content.Read d s t := by
  induction h with
  | word h => exact reads_word h _
  | number h _ hx =>
    obtain ⟨b, u, rfl, hb⟩ := h.front
    exact reads_digit hb hx
  | negative _ _ hx => exact reads_minus hx
  | text h => exact reads_text h.reads
  | @list d vs s t _ ih =>
    obtain ⟨h', hitems⟩ := ih s [] Shorter.same rfl
    exact reads_list hitems
  | @object d ms s t _ ih =>
    obtain ⟨h', hmembers⟩ := ih s [] Shorter.same
    exact reads_object hmembers
  | endItems h =>
    intro s₀ acc hs _
    rw [List.append_nil]
    exact readItems_end h hs
  | @item d first v vs s u w t sep value _ hvalue hrest =>
    intro s₀ acc hs hfirst
    subst hfirst
    obtain ⟨ht, hnext⟩ := nextItem_separator sep value.derives.begins
    obtain ⟨hs', hstep⟩ := readItems_next hnext hvalue hs
    obtain ⟨h', hitems⟩ := hrest s₀ (v :: acc) hs' rfl
    refine ⟨h', ?_⟩
    rw [hstep, hitems]
    simp only [List.reverse_cons, List.append_assoc, List.singleton_append]
  | endMembers h => exact fun s₀ acc hs => readMembers_end h hs
  | @member d first name v ms s u w t key _ _ hvalue hrest =>
    intro s₀ acc hs
    obtain ⟨colon, hnamed, hgap⟩ := named_of_key key
    have hread := (skipsBlanks_readValue d).reads hgap hvalue
    obtain ⟨hs', hstep⟩ := readMembers_next acc hnamed hread hs
    obtain ⟨h', hmembers⟩ := hrest s₀ (Members.insert name v acc) hs'
    exact ⟨h', hstep.trans hmembers⟩

/-- **A value with a content is read, and that is what is read.** -/
theorem Denotes.reads {v : Json} (h : Denotes d (.value v) s t) : Reads (readValue d) s v t :=
  h.read

/-! ### ends -/

theorem Reads.rest_eq {read : Reader α} {v : α} (h : Reads read s v t) {r : Read α s}
    (hr : read s = .ok r) : r.rest = t := by
  obtain ⟨h', hread⟩ := h
  cases hread.symm.trans hr
  rfl

theorem Settles.rest_eq {x : Except Fault (Read Number s)} (h : Settles x t)
    {r : Read Number s} (hr : x = .ok r) : r.rest = t := by
  rcases h with ⟨v, h', hx⟩ | ⟨rest, hx⟩
  · cases hx.symm.trans hr
    rfl
  · cases hx.symm.trans hr

theorem readValue_digit (hb : isDigit b = true) {r : Read Json (b :: s)}
    (h : readValue d (b :: s) = .ok r) :
    ∃ r', scanNumber false (b :: s) = .ok r' ∧ r'.rest = r.rest := by
  rw [readValue, ahead_cons (not_isBlank_of_isDigit hb)] at h
  simp only [if_neg (ne_of_isDigit (c := 'n'.toUInt8) hb (by decide)),
    if_neg (ne_of_isDigit (c := 't'.toUInt8) hb (by decide)),
    if_neg (ne_of_isDigit (c := 'f'.toUInt8) hb (by decide)),
    if_neg (ne_of_isDigit (c := 45) hb (by decide)), if_pos hb] at h
  obtain ⟨r₁, h₁, rfl⟩ := map_ok h
  obtain ⟨r₂, h₂, rfl⟩ := map_ok h₁
  exact ⟨r₂, h₂, rfl⟩

theorem readValue_minus {r : Read Json (45 :: s)} (h : readValue d (45 :: s) = .ok r) :
    ∃ r', scanNumber true s = .ok r' ∧ r'.rest = r.rest := by
  rw [readValue, ahead_cons (by decide)] at h
  obtain ⟨r₁, h₁, rfl⟩ := map_ok h
  obtain ⟨r₂, h₂, rfl⟩ := map_ok h₁
  exact ⟨r₂, h₂, rfl⟩

theorem readValue_quote {r : Read Json (34 :: s)} (h : readValue d (34 :: s) = .ok r) :
    ∃ r', scanText s = .ok r' ∧ r'.rest = r.rest := by
  rw [readValue, ahead_cons (by decide)] at h
  obtain ⟨r₁, h₁, rfl⟩ := map_ok h
  obtain ⟨r₂, h₂, rfl⟩ := map_ok h₁
  exact ⟨r₂, h₂, rfl⟩

theorem readValue_bracket {r : Read Json (91 :: s)} (h : readValue d (91 :: s) = .ok r) :
    ∃ d' p, readItems (readValue d') [] s Shorter.same = .ok p ∧ p.1.2 = r.rest := by
  rw [readValue, ahead_cons (by decide)] at h
  obtain ⟨r₁, h₁, rfl⟩ := map_ok h
  cases d with
  | zero => cases h₁
  | succ d' =>
    obtain ⟨p, hp, rfl⟩ := map_ok h₁
    exact ⟨d', p, hp, rfl⟩

theorem readValue_brace {r : Read Json (123 :: s)} (h : readValue d (123 :: s) = .ok r) :
    ∃ d' p, readMembers (readValue d') true [] s Shorter.same = .ok p ∧ p.1.2 = r.rest := by
  rw [readValue, ahead_cons (by decide)] at h
  obtain ⟨r₁, h₁, rfl⟩ := map_ok h
  cases d with
  | zero => cases h₁
  | succ d' =>
    obtain ⟨p, hp, rfl⟩ := map_ok h₁
    exact ⟨d', p, hp, rfl⟩

/-- Items that are read are read one by one. -/
theorem readItems_step {item : Reader α} {acc : List α} {hs : s.length ≤ s₀.length}
    {p : { p : List α × List UInt8 // p.2.length ≤ s₀.length }}
    (sep : Separator acc.isEmpty s u) (hu : Begins u) (h : readItems item acc s hs = .ok p) :
    ∃ r hs', item u = .ok r ∧ readItems item (r.value :: acc) r.rest hs' = .ok p := by
  obtain ⟨ht, hnext⟩ := nextItem_separator sep hu
  rw [readItems, hnext] at h
  dsimp only at h
  cases hitem : item u with
  | error f =>
    rw [hitem] at h
    cases h
  | ok r =>
    rw [hitem] at h
    exact ⟨r, _, rfl, h⟩

/-- So are members, whatever their names are. -/
theorem readMembers_step {value : Reader α} {first : Bool} {acc : Members α}
    {hs : s.length ≤ s₀.length} {p : { p : Members α × List UInt8 // p.2.length ≤ s₀.length }}
    (key : Key Inside first s u) (h : readMembers value first acc s hs = .ok p) :
    ∃ w, Blanks w u ∧ ∃ name r hs', value w = .ok r ∧
      readMembers value false (Members.insert name r.value acc) r.rest hs' = .ok p := by
  obtain ⟨q, v, w, sep, hname, hcolon, hgap⟩ := key
  obtain ⟨ht, hnext⟩ := nextName_separator sep
  rw [readMembers, hnext] at h
  dsimp only at h
  cases hscan : scanText q with
  | error f =>
    rw [hscan] at h
    cases h
  | ok text =>
    obtain ⟨name, v', hv'⟩ := text
    have hv : v' = v := hname.text_rest hscan
    subst hv
    obtain ⟨hw, hskip⟩ := skipColon_blanks hcolon
    rw [hscan] at h
    dsimp only at h
    rw [hskip] at h
    dsimp only at h
    cases hvalue : value w with
    | error f =>
      rw [hvalue] at h
      cases h
    | ok r =>
      rw [hvalue] at h
      exact ⟨w, hgap, name, r, _, hvalue, h⟩

/-- Where reading from each place in a text ends, if it does not fail. -/
def Goal.Ended : Goal → List UInt8 → List UInt8 → Prop
  | .value, s, t => ∀ d (r : Read Json s), readValue d s = .ok r → r.rest = t
  | .items first, s, t => ∀ d (s₀ : List UInt8) (acc : List Json) (hs : s.length ≤ s₀.length) p,
    acc.isEmpty = first → readItems (readValue d) acc s hs = .ok p → p.1.2 = t
  | .members first, s, t => ∀ d (s₀ : List UInt8) (acc : Properties)
    (hs : s.length ≤ s₀.length) p, readMembers (readValue d) first acc s hs = .ok p → p.1.2 = t

theorem Derives.ended {goal : Goal} (h : Derives goal s t) : goal.Ended s t := by
  induction h with
  | word h => exact fun d r hr => (reads_word h _).rest_eq hr
  | number h ht =>
    intro d r hr
    obtain ⟨b, u, rfl, hb⟩ := h.front
    obtain ⟨r', hscan, hrest⟩ := readValue_digit hb hr
    exact hrest.symm.trans ((h.settles false ht).rest_eq hscan)
  | negative h ht =>
    intro d r hr
    obtain ⟨r', hscan, hrest⟩ := readValue_minus hr
    exact hrest.symm.trans ((h.settles true ht).rest_eq hscan)
  | text h =>
    intro d r hr
    obtain ⟨r', hscan, hrest⟩ := readValue_quote hr
    exact hrest.symm.trans (h.text_rest hscan)
  | list _ ih =>
    intro d r hr
    obtain ⟨d', p, hitems, hrest⟩ := readValue_bracket hr
    exact hrest.symm.trans (ih d' _ [] _ p rfl hitems)
  | object _ ih =>
    intro d r hr
    obtain ⟨d', p, hmembers, hrest⟩ := readValue_brace hr
    exact hrest.symm.trans (ih d' _ [] _ p hmembers)
  | endItems h =>
    intro d s₀ acc hs p _ hp
    obtain ⟨h', hclose⟩ := closeList_end h hs
    rw [readItems, nextItem_end _ h] at hp
    simp only [hclose] at hp
    cases hp
    rfl
  | item sep value _ hvalue hrest =>
    intro d s₀ acc hs p hfirst hp
    subst hfirst
    obtain ⟨r, hs', hitem, hitems⟩ := readItems_step sep value.begins hp
    have hv := hvalue d r hitem
    subst hv
    exact hrest d s₀ _ hs' p rfl hitems
  | endMembers h =>
    intro d s₀ acc hs p hp
    obtain ⟨h', hclose⟩ := closeObject_end h hs
    rw [readMembers, nextName_end _ h] at hp
    simp only [hclose] at hp
    cases hp
    rfl
  | member key _ _ hvalue hrest =>
    intro d s₀ acc hs p hp
    obtain ⟨w, hgap, name, r, hs', hread, hmembers⟩ := readMembers_step key hp
    obtain ⟨r', hread', _, heq⟩ := (skipsBlanks_readValue d).of_ok hgap hread
    have hv := heq.symm.trans (hvalue d r' hread')
    subst hv
    exact hrest d s₀ _ hs' p hmembers

/-- **A value that is well formed is read to its end, if it is read.** -/
theorem Derives.rest_eq (h : Derives .value s t) {r : Read Json s} (hr : readValue d s = .ok r) :
    r.rest = t := h.ended d r hr

end TelemetryGate.Json
