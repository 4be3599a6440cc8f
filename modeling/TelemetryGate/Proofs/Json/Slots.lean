import TelemetryGate.Proofs.Json.Contents
import TelemetryGate.Proofs.Json.Passing

/-!
# Records as text has them

* `Exact`                a reader that reads what is well formed to its end, if it reads it;
* `readSlots_step`, …    from member to member of an object whose slots are being filled;
* `reads_null`, …        the values of slots.
-/

namespace TelemetryGate.Json

variable {α β : Type} {s₀ s t u v : List UInt8} {b : UInt8} {d : Nat}

/-! ### readers that read to the end -/

/-- Blanks in front make no difference, and a value that is well formed is read to its end, if it is
read. -/
structure Exact (read : Reader α) : Prop where
  blanks : SkipsBlanks read
  rest_eq : ∀ s t, Derives .value s t → ∀ r, read s = .ok r → r.rest = t

theorem Exact.after_blanks {read : Reader α} (h : Exact read) (hgap : Blanks s u)
    (value : Derives .value u t) {r : Read α s} (hr : read s = .ok r) : r.rest = t := by
  obtain ⟨r', hr', _, hrest⟩ := h.blanks.of_ok hgap hr
  exact hrest.symm.trans (h.rest_eq u t value r' hr')

/-- What a value begins with tells what it is. -/
theorem Derives.front_cases (h : Derives .value (b :: s) t) :
    (∃ v w, (v, b :: w) ∈ words ∧ s = w ++ t) ∨ (isDigit b = true ∨ b = 45 ∨ b = 91) ∨
      (b = 34 ∧ Inside s t) ∨ (b = 123 ∧ Derives (.members true) s t) := by
  generalize hs : b :: s = q at h
  cases h with
  | @word v w t hw =>
    have hne : w ≠ [] := by
      rintro rfl
      exact absurd hw (by simp [words])
    obtain ⟨b', w', rfl⟩ := List.exists_cons_of_ne_nil hne
    cases hs
    exact .inl ⟨v, w', hw, rfl⟩
  | number hn =>
    obtain ⟨b', u, rfl, hb⟩ := hn.front
    cases hs
    exact .inr (.inl (.inl hb))
  | negative =>
    cases hs
    exact .inr (.inl (.inr (.inl rfl)))
  | list =>
    cases hs
    exact .inr (.inl (.inr (.inr rfl)))
  | text hi =>
    cases hs
    exact .inr (.inr (.inl ⟨rfl, hi⟩))
  | object ho =>
    cases hs
    exact .inr (.inr (.inr ⟨rfl, ho⟩))

theorem Derives.of_quote (h : Derives .value (34 :: s) t) : Inside s t := by
  rcases h.front_cases with ⟨v, w, hw, _⟩ | hb | ⟨_, hi⟩ | ⟨hb, _⟩
  · exact absurd hw (by simp [words])
  · exact absurd hb (by decide)
  · exact hi
  · exact absurd hb (by decide)

theorem Derives.of_brace (h : Derives .value (123 :: s) t) : Derives (.members true) s t := by
  rcases h.front_cases with ⟨v, w, hw, _⟩ | hb | ⟨hb, _⟩ | ⟨_, ho⟩
  · exact absurd hw (by simp [words])
  · exact absurd hb (by decide)
  · exact absurd hb (by decide)
  · exact ho

theorem Derives.of_n (h : Derives .value (110 :: s) t) : s = 117 :: 108 :: 108 :: t := by
  rcases h.front_cases with ⟨v, w, hw, rfl⟩ | hb | ⟨hb, _⟩ | ⟨hb, _⟩
  · simp only [words, List.mem_cons, Prod.mk.injEq, List.cons.injEq] at hw
    rcases hw with ⟨_, _, rfl⟩ | ⟨_, hb, _⟩ | ⟨_, hb, _⟩ | hw
    · rfl
    · exact absurd hb (by decide)
    · exact absurd hb (by decide)
    · cases hw
  · exact absurd hb (by decide)
  · exact absurd hb (by decide)
  · exact absurd hb (by decide)

theorem exact_readText (wanted : String) : Exact (readText wanted) := by
  refine ⟨skipsBlanks_readText wanted, fun s t h r hr => ?_⟩
  obtain ⟨b, u, rfl, hblank, _⟩ := h.begins
  rw [readText, ahead_cons hblank] at hr
  dsimp only at hr
  by_cases hb : b = 34
  · subst hb
    rw [if_pos rfl] at hr
    obtain ⟨r', hscan, rfl⟩ := map_ok hr
    exact h.of_quote.text_rest hscan
  · rw [if_neg hb] at hr
    cases hr

theorem exact_readOptional {read : Reader α} (hread : Exact read) : Exact (readOptional read) := by
  refine ⟨skipsBlanks_readOptional read, fun s t h r hr => ?_⟩
  obtain ⟨b, u, rfl, hblank, _⟩ := h.begins
  rw [readOptional, ahead_cons hblank] at hr
  dsimp only at hr
  by_cases hb : b = 'n'.toUInt8
  · subst hb
    have hu := h.of_n
    subst hu
    rw [if_pos rfl] at hr
    cases hr
    rfl
  · rw [if_neg hb] at hr
    obtain ⟨r', hr', rfl⟩ := map_ok hr
    exact hread.rest_eq _ t h r' hr'

theorem exact_readMap (depth : Nat) : Exact (readMap depth readValue) := by
  refine ⟨skipsBlanks_readMap depth readValue, fun s t h r hr => ?_⟩
  obtain ⟨b, u, rfl, hblank, _⟩ := h.begins
  rw [readMap, ahead_cons hblank] at hr
  dsimp only at hr
  by_cases hb : b = 123
  · subst hb
    rw [if_pos rfl] at hr
    cases depth with
    | zero => cases hr
    | succ d =>
      obtain ⟨p, hmembers, rfl⟩ := map_ok hr
      exact h.of_brace.ended d _ [] _ p hmembers
  · rw [if_neg hb] at hr
    cases hr

theorem Exact.map {read : Reader α} (h : Exact read) (f : α → β) :
    Exact fun s => (read s).map (Read.map f) := by
  constructor
  · intro s t hst
    have heq := h.blanks s t hst
    have hpair : ∀ {s} (x : Except Fault (Read α s)),
        outcome (x.map (Read.map f)) = (outcome x).map fun p => (f p.1, p.2) := by
      intro s x
      cases x with
      | error f => rfl
      | ok r => rfl
    rw [hpair, hpair, heq]
  · intro s t hst r hr
    obtain ⟨r', hr', rfl⟩ := map_ok hr
    exact h.rest_eq s t hst r' hr'

/-! ### the values of slots -/

theorem reads_null (read : Reader α) (t : List UInt8) :
    Reads (readOptional read) (110 :: 117 :: 108 :: 108 :: t) none t := by
  refine ⟨by simp only [List.length_cons]; omega, ?_⟩
  rw [readOptional, ahead_cons (by decide)]
  rfl

/-- How the text of a value begins and goes on, where that matters. -/
def Shape (d : Nat) (s t : List UInt8) : Json → Prop
  | .null => s = 110 :: 117 :: 108 :: 108 :: t
  | .text x => ∃ u, s = 34 :: u ∧ Quotes x u t
  | .object p => ∃ d' ms u, d = d' + 1 ∧ p = Members.extend [] ms ∧ s = 123 :: u ∧
    Denotes d' (.members true ms) u t
  | _ => True

theorem Denotes.shape {v : Json} (h : Denotes d (.value v) s t) : Shape d s t v := by
  generalize hc : Content.value v = content at h
  cases h with
  | word hw =>
    cases hc
    simp only [words, List.mem_cons, List.not_mem_nil, or_false, Prod.mk.injEq] at hw
    rcases hw with ⟨rfl, rfl⟩ | ⟨rfl, rfl⟩ | ⟨rfl, rfl⟩
    · rfl
    · trivial
    · trivial
  | @number d x =>
    cases hc
    cases x <;> trivial
  | @negative d x =>
    cases hc
    cases x <;> trivial
  | text h =>
    cases hc
    exact ⟨_, rfl, h⟩
  | list =>
    cases hc
    trivial
  | object h =>
    cases hc
    exact ⟨_, _, _, rfl, rfl, rfl, h⟩
  | endItems => cases hc
  | item => cases hc
  | endMembers => cases hc
  | member => cases hc

/-- The text of nothing or of a value, in the place of one that may be missing. -/
theorem reads_nullable {read : Reader α} {f : α → Json} {v : Option α}
    (h : Denotes d (.value (v.elim .null f)) s t)
    (hread : ∀ x, v = some x → Reads read s x t ∧ ∃ b u, s = b :: u ∧ isBlank b = false ∧ b ≠ 110) :
    Reads (readOptional read) s v t := by
  cases v with
  | none =>
    obtain rfl : s = 110 :: 117 :: 108 :: 108 :: t := h.shape
    exact reads_null read t
  | some x =>
    obtain ⟨hx, b, u, rfl, hb, hnull⟩ := hread x rfl
    exact reads_present hb hnull hx

theorem reads_textOrNull {v : Option String} (h : Denotes d (.value (v.elim .null .text)) s t)
    (wanted : String) : Reads (readOptional (readText wanted)) s v t := by
  refine reads_nullable h fun text htext => ?_
  subst htext
  obtain ⟨u, rfl, hquotes⟩ := h.shape
  exact ⟨reads_readText hquotes.reads, 34, u, rfl, by decide, by decide⟩

theorem reads_objectOrNull {v : Option Properties}
    (h : Denotes d (.value (v.elim .null .object)) s t) :
    Reads (readOptional (readMap d readValue)) s v t := by
  refine reads_nullable h fun p hp => ?_
  subst hp
  obtain ⟨d', ms, u, rfl, rfl, rfl, hmembers⟩ := h.shape
  obtain ⟨h', hread⟩ := hmembers.read u [] Shorter.same
  exact ⟨reads_readMap hread, 123, u, rfl, by decide, by decide⟩

/-! ### members and items -/

section

variable {κ : Type} {El : κ → Type} {ρ : Type} {read : (k : κ) → Reader (El k)}
  {form : Form κ El ρ} {given : List String} {record : ρ} {first : Bool} {name : String}

/-- A member of another name is passed over. -/
theorem readSlots_other (record : ρ) (key : Key (Quotes name) first s u)
    (hslot : form.slot? name = none) (value : Derives .value u v) (hs : s.length ≤ s₀.length) :
    ∃ hs', readSlots read form given first record s hs =
      readSlots read form given false record v hs' := by
  obtain ⟨w, ⟨t₀, h₀, t₁, h₁, h₂, hnext, hscan, hcolon⟩, hgap⟩ := named_of_key key
  obtain ⟨h₃, hskip⟩ := value.skip hgap
  refine ⟨by omega, ?_⟩
  rw [readSlots, hnext]
  simp only [hscan, hslot, hcolon, hskip]

/-- A member for a slot that is filled already is a fault. -/
theorem readSlots_named {slot : Slot κ El ρ} {hs : s.length ≤ s₀.length}
    {p : { p : ρ × List UInt8 // p.2.length ≤ s₀.length }} (key : Key (Quotes name) first s u)
    (hslot : form.slot? name = some slot) (hread : Exact (read slot.kind))
    (value : Derives .value u v) (h : readSlots read form given first record s hs = .ok p) :
    given.contains slot.name = false ∧ ∃ record' hs',
      readSlots read form (slot.name :: given) false record' v hs' = .ok p := by
  obtain ⟨w, ⟨t₀, h₀, t₁, h₁, h₂, hnext, hscan, hcolon⟩, hgap⟩ := named_of_key key
  rw [readSlots, hnext] at h
  simp only [hscan, hslot] at h
  by_cases hnew : given.contains slot.name = true
  · rw [if_pos hnew] at h
    cases h
  · rw [if_neg hnew] at h
    simp only [hcolon] at h
    cases hvalue : read slot.kind w with
    | error f =>
      rw [hvalue] at h
      cases h
    | ok r =>
      have hv := hread.after_blanks hgap value hvalue
      subst hv
      rw [hvalue] at h
      exact ⟨Bool.eq_false_iff.mpr hnew, _, _, h⟩

/-- Whatever a member is, reading goes on after it, and the slots that were filled still are. -/
theorem readSlots_step {hs : s.length ≤ s₀.length}
    {p : { p : ρ × List UInt8 // p.2.length ≤ s₀.length }} (key : Key Inside first s u)
    (hread : ∀ slot ∈ form.slots, Exact (read slot.kind)) (value : Derives .value u v)
    (h : readSlots read form given first record s hs = .ok p) :
    ∃ given' record' hs', (∀ x ∈ given, x ∈ given') ∧
      readSlots read form given' false record' v hs' = .ok p := by
  obtain ⟨q, q', w, sep, hname, hcolon, hgap⟩ := key
  obtain ⟨ht, hnext⟩ := nextName_separator sep
  rw [readSlots, hnext] at h
  dsimp only at h
  cases hscan : scanText q with
  | error f =>
    rw [hscan] at h
    cases h
  | ok text =>
    obtain ⟨name, t', ht'⟩ := text
    have htext : t' = q' := hname.text_rest hscan
    subst htext
    obtain ⟨hw, hskip⟩ := skipColon_blanks hcolon
    rw [hscan] at h
    dsimp only at h
    cases hslot : form.slot? name with
    | none =>
      obtain ⟨h₃, hpass⟩ := value.skip hgap
      rw [hslot] at h
      simp only [hskip, hpass] at h
      exact ⟨given, record, _, fun x hx => hx, h⟩
    | some slot =>
      have hmem : slot ∈ form.slots := List.mem_of_find?_eq_some hslot
      rw [hslot] at h
      dsimp only at h
      by_cases hnew : given.contains slot.name = true
      · rw [if_pos hnew] at h
        cases h
      · rw [if_neg hnew] at h
        simp only [hskip] at h
        cases hvalue : read slot.kind w with
        | error f =>
          rw [hvalue] at h
          cases h
        | ok r =>
          have hv := (hread slot hmem).after_blanks hgap value hvalue
          subst hv
          rw [hvalue] at h
          exact ⟨slot.name :: given, _, _, fun x hx => List.mem_cons_of_mem _ hx, h⟩

theorem readInOrder_end {wanted : String} {n : Nat} {slots : List (Slot κ El ρ)}
    (hslots : ∀ slot ∈ slots, slot.required = false) (h : Blanks s (93 :: t))
    (hs : s.length ≤ s₀.length) :
    ∃ h', readInOrder read wanted n record s hs slots = .ok ⟨(record, t), h'⟩ := by
  induction slots with
  | nil =>
    obtain ⟨h', hclose⟩ := closeList_end h hs
    refine ⟨h', ?_⟩
    rw [readInOrder, hclose]
    rfl
  | cons slot slots ih =>
    obtain ⟨hslot, hrest⟩ := List.forall_mem_cons.mp hslots
    obtain ⟨h', hread⟩ := ih hrest
    refine ⟨h', ?_⟩
    rw [readInOrder, nextItem_end _ h]
    simp only [hslot, Bool.false_eq_true, if_false]
    exact hread

theorem readInOrder_next {wanted : String} {n : Nat} {slot : Slot κ El ρ}
    (slots : List (Slot κ El ρ)) (record : ρ) (sep : Separator (decide (n = 0)) s u)
    (hu : Begins u) {x : El slot.kind} (hx : Reads (read slot.kind) u x v)
    (hs : s.length ≤ s₀.length) :
    ∃ hs', readInOrder read wanted n record s hs (slot :: slots) =
      readInOrder read wanted (n + 1) (slot.store x record) v hs' slots := by
  obtain ⟨ht, hnext⟩ := nextItem_separator sep hu
  obtain ⟨h', hread⟩ := hx
  refine ⟨Shorter.within_le (Shorter.within h' ht) hs, ?_⟩
  rw [readInOrder, hnext]
  simp only [hread]

end

end TelemetryGate.Json
