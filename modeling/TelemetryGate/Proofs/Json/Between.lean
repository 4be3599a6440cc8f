import TelemetryGate.Proofs.Json.Quotes

/-!
# Between values

Text is described as it is read, from the front: each relation says of some bytes that a piece of
text comes first, and what then follows.

* `Run`, `Blanks`      bytes of a kind, as many as there are of them or fewer;
* `Separator`, `Key`   what stands before an item, and before the value of a member;
* `Named`              the way to the value of a member, as it is gone;
* `named`              it is gone wherever there is one.
-/

namespace TelemetryGate.Json

/-! ### text -/

inductive Run (p : UInt8 → Bool) : List UInt8 → List UInt8 → Prop
  | done {s : List UInt8} : Run p s s
  | step {b : UInt8} {s t : List UInt8} (h : p b = true) (rest : Run p s t) : Run p (b :: s) t

abbrev Blanks : List UInt8 → List UInt8 → Prop := Run isBlank

/-- What stands before an item: a comma, but not before the first one, and blanks. -/
inductive Separator : Bool → List UInt8 → List UInt8 → Prop
  | first {s t : List UInt8} (h : Blanks s t) : Separator true s t
  | next {s u t : List UInt8} (h : Blanks s (44 :: u)) (h' : Blanks u t) : Separator false s t

/-- What stands before the value of a member: a name, a colon and blanks. -/
def Key (name : List UInt8 → List UInt8 → Prop) (first : Bool) (s t : List UInt8) : Prop :=
  ∃ u v w, Separator first s (34 :: u) ∧ name u v ∧ Blanks v (58 :: w) ∧ Blanks w t

/-- No blank and no bracket that closes a list comes first. -/
def Begins (s : List UInt8) : Prop := ∃ b t, s = b :: t ∧ isBlank b = false ∧ b ≠ 93

variable {s₀ s t u v : List UInt8} {b : UInt8} {first : Bool}

theorem Printed.begins {α : Type} {read : Reader α} {x : α} {bytes : List UInt8}
    (h : Printed read x bytes) : Begins (bytes ++ s) := by
  obtain ⟨b, rest, rfl, hb, hclose⟩ := h.front
  exact ⟨b, rest ++ s, rfl, hb, hclose⟩

theorem Key.mono {name name' : List UInt8 → List UInt8 → Prop} (h : Key name first s t)
    (hname : ∀ u v, name u v → name' u v) : Key name' first s t := by
  obtain ⟨u, v, w, hsep, hu, hcolon, hgap⟩ := h
  exact ⟨u, v, w, hsep, hname u v hu, hcolon, hgap⟩

/-! ### blanks -/

theorem Run.suffix {p : UInt8 → Bool} (h : Run p s t) : t <:+ s := by
  induction h with
  | done => exact List.suffix_refl _
  | @step b s t _ _ ih => exact ih.trans (List.suffix_cons b s)

theorem Run.length_le {p : UInt8 → Bool} (h : Run p s t) : t.length ≤ s.length :=
  h.suffix.length_le

theorem run_append {p : UInt8 → Bool} {bs : List UInt8} (h : ∀ b ∈ bs, p b = true)
    (t : List UInt8) : Run p (bs ++ t) t := by
  induction bs with
  | nil => exact .done
  | cons b bs ih =>
    obtain ⟨hb, hbs⟩ := List.forall_mem_cons.mp h
    exact .step hb (ih hbs)

theorem ahead_blanks (h : Blanks s t) :
    ahead s = (ahead t).map (Read.widen h.length_le) := by
  induction h with
  | @done s =>
    cases ahead s with
    | none => rfl
    | some r => rfl
  | @step b s t hb rest ih =>
    rw [ahead, if_pos hb, ih]
    cases ahead t with
    | none => rfl
    | some r => rfl

theorem Blanks.ahead_eq (h : Blanks s (b :: t)) (hb : isBlank b = false) :
    ∃ h', ahead s = some ⟨b, t, h'⟩ := by
  refine ⟨h.length_le, ?_⟩
  rw [ahead_blanks h, ahead_cons hb]
  rfl

/-- Bytes are not all blank if blanks end before a byte that is none. -/
theorem Blanks.not_all (h : Blanks s (b :: t)) (hb : isBlank b = false) :
    ¬ ∀ b' ∈ s, isBlank b' = true := by
  intro hall
  have hblank := hall b (h.suffix.subset List.mem_cons_self)
  exact absurd hb (by rw [hblank]; decide)

theorem Blanks.skip_nil (h : Blanks s []) : skipBlanks s = [] := by
  generalize ht : ([] : List UInt8) = t at h
  induction h with
  | done =>
    rw [← ht]
    rfl
  | step hb _ ih =>
    rw [skipBlanks, if_pos hb]
    exact ih ht

/-! ### items -/

theorem nextItem_separator (h : Separator first s u) (hu : Begins u) :
    ∃ h', nextItem first s Shorter.same = .ok (some ⟨u, h'⟩) := by
  obtain ⟨b, v, rfl, hb, hclose⟩ := hu
  cases h with
  | first h =>
    obtain ⟨h', hahead⟩ := h.ahead_eq hb
    refine ⟨h', ?_⟩
    rw [nextItem, hahead]
    simp only [if_neg hclose, if_true]
  | next h h' =>
    obtain ⟨h₁, hahead⟩ := h.ahead_eq (by decide)
    obtain ⟨h₂, hahead'⟩ := h'.ahead_eq hb
    refine ⟨Shorter.front_within h₂ (Shorter.le h₁), ?_⟩
    rw [nextItem, hahead]
    simp only [hahead', if_neg hclose]
    rfl

theorem nextItem_end (first : Bool) (h : Blanks s (93 :: t)) (hs : s.length ≤ s₀.length) :
    nextItem first s hs = .ok none := by
  obtain ⟨h', hahead⟩ := h.ahead_eq (by decide)
  rw [nextItem, hahead]
  rfl

theorem closeList_end (h : Blanks s (93 :: t)) (hs : s.length ≤ s₀.length) :
    ∃ h', closeList s hs = .ok ⟨t, h'⟩ := by
  obtain ⟨h', hahead⟩ := h.ahead_eq (by decide)
  refine ⟨Shorter.within_le h' hs, ?_⟩
  rw [closeList, hahead]
  rfl

/-! ### members -/

theorem nextName_separator (h : Separator first s (34 :: u)) :
    ∃ h', nextName first s Shorter.same = .ok (some ⟨u, h'⟩) := by
  cases h with
  | first h =>
    obtain ⟨h', hahead⟩ := h.ahead_eq (by decide)
    refine ⟨h', ?_⟩
    rw [nextName, hahead]
    rfl
  | next h h' =>
    obtain ⟨h₁, hahead⟩ := h.ahead_eq (by decide)
    obtain ⟨h₂, hahead'⟩ := h'.ahead_eq (by decide)
    refine ⟨Shorter.both h₂ h₁, ?_⟩
    rw [nextName, hahead]
    simp only [hahead']
    rfl

theorem nextName_end (first : Bool) (h : Blanks s (125 :: t)) (hs : s.length ≤ s₀.length) :
    nextName first s hs = .ok none := by
  obtain ⟨h', hahead⟩ := h.ahead_eq (by decide)
  rw [nextName, hahead]
  rfl

theorem closeObject_end (h : Blanks s (125 :: t)) (hs : s.length ≤ s₀.length) :
    ∃ h', closeObject s hs = .ok ⟨t, h'⟩ := by
  obtain ⟨h', hahead⟩ := h.ahead_eq (by decide)
  refine ⟨Shorter.within_le h' hs, ?_⟩
  rw [closeObject, hahead]
  rfl

theorem skipColon_blanks (h : Blanks s (58 :: t)) : ∃ h', skipColon s = .ok ⟨t, h'⟩ := by
  obtain ⟨h', hahead⟩ := h.ahead_eq (by decide)
  refine ⟨h', ?_⟩
  rw [skipColon, hahead]
  rfl

/-- The way from one value to the next: past a comma, a name and a colon. -/
def Named (first : Bool) (s : List UInt8) (name : String) (t : List UInt8) : Prop :=
  ∃ t₀ h₀ t₁ h₁ h₂, nextName first s Shorter.same = .ok (some ⟨t₀, h₀⟩) ∧
    scanText t₀ = .ok ⟨name, t₁, h₁⟩ ∧ skipColon t₁ = .ok ⟨t, h₂⟩

theorem named {name : String} (sep : Separator first s (34 :: u)) (hname : Quotes name u v)
    (hcolon : Blanks v (58 :: t)) : Named first s name t := by
  obtain ⟨h₀, hnext⟩ := nextName_separator sep
  obtain ⟨h₁, hscan⟩ := hname.reads
  obtain ⟨h₂, hskip⟩ := skipColon_blanks hcolon
  exact ⟨u, h₀, v, h₁, h₂, hnext, hscan, hskip⟩

theorem named_of_key {name : String} (h : Key (Quotes name) first s t) :
    ∃ w, Named first s name w ∧ Blanks w t := by
  obtain ⟨u, v, w, sep, hname, hcolon, hgap⟩ := h
  exact ⟨w, named sep hname hcolon, hgap⟩

end TelemetryGate.Json
