import TelemetryGate.Proofs.Json.Contents

/-!
# More behind

Text that comes first still comes first with more behind it. A number is the exception, since it
goes on as long as digits do: something must follow it that stops it.

* `Numeral.append`, `Spells.append`, …   numbers, texts and what stands between values;
* `Derives.append`                       values, items and members;
* `Derives.ne_nil`, `Derives.stops_*`    inside a bracket something always follows, and it stops a
                                         number;
* `Derives.closing`                      and it ends with the bracket that closes it.
-/

namespace TelemetryGate.Json

variable {s t u : List UInt8} {b : UInt8} {first : Bool}

/-! ### runs of bytes -/

theorem Run.trans {p : UInt8 → Bool} (h : Run p s t) (h' : Run p t u) : Run p s u := by
  induction h with
  | done => exact h'
  | step hb _ ih => exact .step hb (ih h')

theorem Run.append {p : UInt8 → Bool} (h : Run p s t) (x : List UInt8) :
    Run p (s ++ x) (t ++ x) := by
  induction h with
  | done => exact .done
  | step hb _ ih => exact .step hb ih

theorem Run.ne_nil {p : UInt8 → Bool} (h : Run p s t) (ht : t ≠ []) : s ≠ [] := by
  cases h with
  | done => exact ht
  | step => exact List.cons_ne_nil _ _

theorem Blanks.stops (h : Blanks s (b :: t)) (hb : isDigit b = false ∧ b ≠ 46 ∧ b ≠ 101 ∧ b ≠ 69) :
    Stops s := by
  cases h with
  | done => exact stops_cons hb t
  | @step c s _ hc =>
    refine stops_cons ?_ s
    simp only [isBlank, Bool.or_eq_true, decide_eq_true_iff] at hc
    rcases hc with ((rfl | rfl) | rfl) | rfl
    all_goals decide

theorem Blanks.eq_of_front (h : Blanks (b :: s) u) (hb : isBlank b = false) : u = b :: s := by
  cases h with
  | done => rfl
  | step hblank => cases hblank.symm.trans hb

/-! ### between values -/

theorem Separator.append (h : Separator first s t) (x : List UInt8) :
    Separator first (s ++ x) (t ++ x) := by
  cases h with
  | first h => exact .first (h.append x)
  | next h h' => exact .next (h.append x) (h'.append x)

theorem Separator.stops (h : Separator false s t) : Stops s := by
  cases h with
  | next h => exact h.stops (by decide)

theorem Separator.ne_nil (h : Separator first s t) (ht : t ≠ []) : s ≠ [] := by
  cases h with
  | first h => exact h.ne_nil ht
  | next h => exact h.ne_nil (List.cons_ne_nil _ _)

theorem Separator.after_blanks (h : Separator first s t) (hgap : Blanks t u) :
    Separator first s u := by
  cases h with
  | first h => exact .first (h.trans hgap)
  | next h h' => exact .next h (h'.trans hgap)

theorem Begins.append (h : Begins s) (x : List UInt8) : Begins (s ++ x) := by
  obtain ⟨b, t, rfl, hb, hclose⟩ := h
  exact ⟨b, t ++ x, rfl, hb, hclose⟩

theorem Key.append {x : List UInt8} {name : List UInt8 → List UInt8 → Prop}
    (hname : ∀ u v, name u v → name (u ++ x) (v ++ x)) (h : Key name first s t) :
    Key name first (s ++ x) (t ++ x) := by
  obtain ⟨u, v, w, hsep, hu, hcolon, hgap⟩ := h
  exact ⟨u ++ x, v ++ x, w ++ x, hsep.append x, hname u v hu, hcolon.append x, hgap.append x⟩

/-! ### texts and numbers -/

theorem Spells.append {bs : List UInt8} (h : Spells bs s t) (x : List UInt8) :
    Spells bs (s ++ x) (t ++ x) := by
  induction h with
  | close => exact .close
  | plain h _ ih => exact .plain h ih
  | letter h _ ih => exact .letter h ih
  | unit h single _ ih => exact .unit h single ih
  | pair h h' lead trail _ ih => exact .pair h h' lead trail ih

theorem Quotes.append {text : String} (h : Quotes text s t) (x : List UInt8) :
    Quotes text (s ++ x) (t ++ x) := Spells.append h x

theorem Inside.append (h : Inside s t) (x : List UInt8) : Inside (s ++ x) (t ++ x) := by
  induction h with
  | close => exact .close
  | plain h _ ih => exact .plain h ih
  | letter h _ ih => exact .letter h ih
  | unit h _ ih => exact .unit h ih

theorem Sign.append (h : Sign s t) (x : List UInt8) : Sign (s ++ x) (t ++ x) := by
  cases h with
  | none => exact .none
  | plus => exact .plus
  | minus => exact .minus

theorem Places.append (h : Places s t) (x : List UInt8) : Places (s ++ x) (t ++ x) := by
  cases h with
  | none => exact .none
  | some hb h => exact .some hb (h.append x)

theorem Power.append (h : Power s t) (x : List UInt8) : Power (s ++ x) (t ++ x) := by
  cases h with
  | none => exact .none
  | some he sign hb h => exact .some he (sign.append x) hb (h.append x)

theorem Numeral.append (h : Numeral s t) (x : List UInt8) : Numeral (s ++ x) (t ++ x) := by
  cases h with
  | zero places power => exact .zero (places.append x) (power.append x)
  | more hb hne digits places power =>
    exact .more hb hne (digits.append x) (places.append x) (power.append x)

/-- What follows still stops a number with more behind it, if there is any of it. -/
theorem Stops.append (h : Stops t) (hne : t ≠ []) (x : List UInt8) : Stops (t ++ x) := by
  cases t with
  | nil => exact absurd rfl hne
  | cons b t => exact stops_cons (h b rfl) (t ++ x)

/-! ### values -/

/-- Inside a bracket something follows, at least the bracket that closes it. -/
theorem Derives.ne_nil {goal : Goal} (h : Derives goal s t) (hgoal : goal ≠ .value) : s ≠ [] := by
  cases h with
  | endItems h => exact h.ne_nil (List.cons_ne_nil _ _)
  | item sep value =>
    obtain ⟨b, u, rfl, _, _⟩ := value.begins
    exact sep.ne_nil (List.cons_ne_nil _ _)
  | endMembers h => exact h.ne_nil (List.cons_ne_nil _ _)
  | member key =>
    obtain ⟨u, v, w, sep, _⟩ := key
    exact sep.ne_nil (List.cons_ne_nil _ _)
  | _ => exact absurd rfl hgoal

theorem Derives.items_ne_nil (h : Derives (.items first) s t) : s ≠ [] :=
  h.ne_nil fun hgoal => Goal.noConfusion hgoal

theorem Derives.members_ne_nil (h : Derives (.members first) s t) : s ≠ [] :=
  h.ne_nil fun hgoal => Goal.noConfusion hgoal

theorem Derives.stops_items (h : Derives (.items false) s t) : Stops s := by
  cases h with
  | endItems h => exact h.stops (by decide)
  | item sep => exact sep.stops

theorem Derives.stops_members (h : Derives (.members false) s t) : Stops s := by
  cases h with
  | endMembers h => exact h.stops (by decide)
  | member key =>
    obtain ⟨u, v, w, sep, _⟩ := key
    exact sep.stops

theorem Derives.append {goal : Goal} (h : Derives goal s t) (hne : goal = .value → t ≠ [])
    (x : List UInt8) : Derives goal (s ++ x) (t ++ x) := by
  induction h with
  | word h =>
    rw [List.append_assoc]
    exact .word h
  | number h hs => exact .number (h.append x) (hs.append (hne rfl) x)
  | negative h hs => exact .negative (h.append x) (hs.append (hne rfl) x)
  | text h => exact .text (h.append x)
  | list _ ih => exact .list (ih nofun)
  | object _ ih => exact .object (ih nofun)
  | endItems h => exact .endItems (h.append x)
  | item sep value rest ih ih' =>
    exact .item (sep.append x) (ih fun _ => rest.items_ne_nil) (ih' nofun)
  | endMembers h => exact .endMembers (h.append x)
  | member key value rest ih ih' =>
    exact .member (key.append fun _ _ h => h.append x) (ih fun _ => rest.members_ne_nil) (ih' nofun)

/-! ### where values end -/

theorem Inside.suffix (h : Inside s t) : t <:+ s := by
  induction h with
  | close => exact List.suffix_cons _ _
  | plain _ _ ih => exact ih.trans (List.suffix_cons _ _)
  | letter _ _ ih => exact ih.trans (List.suffix_append [_, _] _)
  | unit _ _ ih => exact ih.trans (List.suffix_append [_, _, _, _, _, _] _)

theorem Sign.suffix (h : Sign s t) : t <:+ s := by
  cases h with
  | none => exact List.suffix_refl _
  | plus => exact List.suffix_cons _ _
  | minus => exact List.suffix_cons _ _

theorem Places.suffix (h : Places s t) : t <:+ s := by
  cases h with
  | none => exact List.suffix_refl _
  | some _ h => exact h.suffix.trans (List.suffix_append [_, _] _)

theorem Power.suffix (h : Power s t) : t <:+ s := by
  cases h with
  | none => exact List.suffix_refl _
  | some _ sign _ h =>
    exact ((h.suffix.trans (List.suffix_cons _ _)).trans sign.suffix).trans (List.suffix_cons _ _)

theorem Numeral.suffix (h : Numeral s t) : t <:+ s := by
  cases h with
  | zero places power => exact (power.suffix.trans places.suffix).trans (List.suffix_cons _ _)
  | more _ _ digits places power =>
    exact ((power.suffix.trans places.suffix).trans digits.suffix).trans (List.suffix_cons _ _)

theorem Separator.suffix (h : Separator first s t) : t <:+ s := by
  cases h with
  | first h => exact h.suffix
  | next h h' => exact (h'.suffix.trans (List.suffix_cons _ _)).trans h.suffix

theorem Key.suffix (h : Key Inside first s t) : t <:+ s := by
  obtain ⟨u, v, w, hsep, hname, hcolon, hgap⟩ := h
  have hvalue : t <:+ u :=
    ((hgap.suffix.trans (List.suffix_cons _ _)).trans hcolon.suffix).trans hname.suffix
  exact (hvalue.trans (List.suffix_cons _ _)).trans hsep.suffix

theorem Derives.suffix {goal : Goal} (h : Derives goal s t) : t <:+ s := by
  induction h with
  | word => exact List.suffix_append _ _
  | number h => exact h.suffix
  | negative h => exact h.suffix.trans (List.suffix_cons _ _)
  | text h => exact h.suffix.trans (List.suffix_cons _ _)
  | list _ ih => exact ih.trans (List.suffix_cons _ _)
  | object _ ih => exact ih.trans (List.suffix_cons _ _)
  | endItems h => exact (List.suffix_cons _ _).trans h.suffix
  | item sep _ _ ih ih' => exact (ih'.trans ih).trans sep.suffix
  | endMembers h => exact (List.suffix_cons _ _).trans h.suffix
  | member key _ _ ih ih' => exact (ih'.trans ih).trans key.suffix

/-- The bracket that closes a list or an object. -/
def Goal.closing : Goal → UInt8
  | .members _ => 125
  | _ => 93

/-- Items and members end with the bracket that closes them. -/
theorem Derives.closing {goal : Goal} (h : Derives goal s t) (hgoal : goal ≠ .value) :
    goal.closing :: t <:+ s := by
  induction h with
  | endItems h => exact h.suffix
  | item sep value _ _ ih => exact ((ih nofun).trans value.suffix).trans sep.suffix
  | endMembers h => exact h.suffix
  | member key value _ _ ih => exact ((ih nofun).trans value.suffix).trans key.suffix
  | _ => exact absurd rfl hgoal

end TelemetryGate.Json
