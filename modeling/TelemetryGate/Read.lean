/-!
# Reading from the front of a list

A reader gives a value and what follows it, which is shorter than what it was given; so whatever
reads again and again comes to an end.

* `Shorter`   lemmas on the lengths of what is left;
* `Read`      a value and what follows it.
-/

namespace TelemetryGate

/-! ### lengths -/

namespace Shorter

variable {τ : Type} {b : τ} {r s t : List τ}

theorem same : s.length ≤ s.length := Nat.le_refl _

theorem nil : ([] : List τ).length ≤ ([] : List τ).length := Nat.le_refl _

theorem tail : r.length < (b :: r).length := Nat.lt_succ_self _

theorem tail_le : r.length ≤ (b :: r).length := Nat.le_succ _

theorem le (h : r.length < s.length) : r.length ≤ s.length := Nat.le_of_lt h

theorem within (h : r.length < s.length) (k : s.length ≤ t.length) : r.length < t.length :=
  Nat.lt_of_lt_of_le h k

theorem after (h : r.length ≤ s.length) (k : s.length < t.length) : r.length < t.length :=
  Nat.lt_of_le_of_lt h k

theorem both (h : r.length < s.length) (k : s.length < t.length) : r.length < t.length :=
  Nat.lt_trans h k

theorem both_le (h : r.length < s.length) (k : s.length < t.length) : r.length ≤ t.length :=
  Nat.le_of_lt (Nat.lt_trans h k)

theorem within_le (h : r.length < s.length) (k : s.length ≤ t.length) : r.length ≤ t.length :=
  Nat.le_of_lt (Nat.lt_of_lt_of_le h k)

theorem cons (h : r.length ≤ s.length) : r.length < (b :: s).length := Nat.lt_succ_of_le h

theorem cons_le (h : r.length ≤ s.length) : r.length ≤ (b :: s).length := Nat.le_succ_of_le h

theorem cons_of_lt (h : r.length < s.length) : r.length < (b :: s).length := Nat.lt_succ_of_lt h

theorem front (h : r.length < s.length) : (b :: r).length ≤ s.length := h

theorem front_same : (b :: r).length ≤ (b :: r).length := Nat.le_refl _

theorem of_front (h : (b :: r).length ≤ s.length) : r.length < s.length := h

theorem of_front_lt (h : (b :: r).length < s.length) : r.length ≤ s.length :=
  Nat.le_of_lt (Nat.lt_of_succ_lt h)

theorem front_within (h : r.length < s.length) (k : s.length ≤ t.length) :
    (b :: r).length ≤ t.length :=
  Nat.le_trans h k

theorem past_front (h : r.length < (b :: s).length) (k : s.length < t.length) :
    r.length < t.length :=
  Nat.lt_of_lt_of_le h k

theorem front_both (h : r.length < s.length) (k : s.length < t.length) :
    (b :: r).length < t.length :=
  Nat.lt_of_le_of_lt h k

end Shorter

/-! ### readings -/

/-- A value read from the front of `s`, and what follows it. -/
structure Read {τ : Type} (α : Type) (s : List τ) where
  value : α
  rest : List τ
  shorter : rest.length < s.length

namespace Read

variable {τ α β : Type} {s t : List τ}

/-- the same reading, seen from further back -/
def widen (h : t.length ≤ s.length) (r : Read α t) : Read α s :=
  ⟨r.value, r.rest, Nat.lt_of_lt_of_le r.shorter h⟩

def map (f : α → β) (r : Read α s) : Read β s := ⟨f r.value, r.rest, r.shorter⟩

end Read

end TelemetryGate
