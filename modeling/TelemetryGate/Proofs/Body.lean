import TelemetryGate.Body

/-!
# What a body holds

* `Body.HoldsFrom`, `Body.Holds`   the bytes of a body, however they come in pieces;
* `Body.Holds.take_eq`             taking from a body takes from the front of its bytes;
* `Body.holds_of_take`             a body that has less than is wanted is taken as a whole.
-/

namespace TelemetryGate.Body

/-- The bytes from the `i`th piece to the end, with no failure on the way. -/
inductive HoldsFrom (body : Body) : Nat → List UInt8 → Prop
  | done {i : Nat} (h : body i = .bytes []) : HoldsFrom body i []
  | more {i : Nat} {b : UInt8} {bs rest : List UInt8} (h : body i = .bytes (b :: bs))
    (tail : HoldsFrom body (i + 1) rest) : HoldsFrom body i ((b :: bs) ++ rest)

/-- The bytes of a body. -/
def Holds (body : Body) (bytes : List UInt8) : Prop := HoldsFrom body 0 bytes

variable {body : Body} {i : Nat} {bytes : List UInt8}

theorem HoldsFrom.takeFrom_eq (h : HoldsFrom body i bytes) (want : Nat) (acc : List UInt8) :
    takeFrom body i want acc = ⟨acc.reverse ++ bytes.take want, none⟩ := by
  induction h generalizing want acc with
  | @done i h =>
    rw [takeFrom, h, List.take_nil, List.append_nil]
    exact ite_self _
  | @more i b bs rest h _ ih =>
    rw [takeFrom, h]
    by_cases hw : want = 0
    · rw [if_pos hw, hw, List.take_zero, List.append_nil]
    · rw [if_neg hw]
      show takeFrom body (i + 1) (want - (bs.length + 1)) _ = _
      rw [ih, List.take_append, List.reverseAux_eq, List.reverse_append, List.reverse_reverse,
        List.append_assoc]
      rfl

theorem Holds.take_eq (h : Holds body bytes) (want : Nat) :
    body.take want = ⟨bytes.take want, none⟩ :=
  HoldsFrom.takeFrom_eq h want []

/-- Whatever is taken without a failure, and is less than was wanted, is all there is. -/
theorem holdsFrom_of_takeFrom {want : Nat} {acc : List UInt8}
    (hfail : (takeFrom body i want acc).failure = none)
    (hlen : (takeFrom body i want acc).bytes.length < acc.length + want) :
    ∃ rest, (takeFrom body i want acc).bytes = acc.reverse ++ rest ∧ HoldsFrom body i rest := by
  fun_induction takeFrom body i want acc with
  | case1 i acc =>
    rw [List.length_reverse] at hlen
    omega
  | case2 i want acc hw reason h => cases hfail
  | case3 i want acc hw h => exact ⟨[], (List.append_nil _).symm, .done h⟩
  | case4 i want acc hw b bs h ih =>
    have hacc : (((b :: bs).take want).reverseAux acc).length =
        min want (bs.length + 1) + acc.length := by
      rw [List.reverseAux_eq, List.length_append, List.length_reverse, List.length_take,
        List.length_cons]
    obtain ⟨rest, hrest, hholds⟩ := ih hfail (by rw [hacc]; omega)
    have hall : (b :: bs).take want = b :: bs := by
      refine List.take_of_length_le ?_
      rw [hrest, List.length_append, List.length_reverse, hacc] at hlen
      rw [List.length_cons]
      omega
    refine ⟨(b :: bs) ++ rest, ?_, .more h hholds⟩
    rw [hrest, hall, List.reverseAux_eq, List.reverse_append, List.reverse_reverse,
      List.append_assoc]

theorem holds_of_take {want : Nat} (hfail : (body.take want).failure = none)
    (hlen : (body.take want).bytes.length < want) : body.Holds (body.take want).bytes := by
  unfold take at hfail hlen ⊢
  have hwant : (takeFrom body 0 want []).bytes.length < ([] : List UInt8).length + want := by
    rw [List.length_nil, Nat.zero_add]
    exact hlen
  obtain ⟨rest, hrest, hholds⟩ := holdsFrom_of_takeFrom hfail hwant
  rw [hrest]
  exact hholds

theorem holds_whole (bs : List UInt8) : (whole bs).Holds bs := by
  cases bs with
  | nil => exact .done rfl
  | cons b bs =>
    have h : (whole (b :: bs)).HoldsFrom 0 ((b :: bs) ++ []) := .more rfl (.done rfl)
    rwa [List.append_nil] at h

end TelemetryGate.Body
