import TelemetryGate.Json.Record

/-!
# What a record that was read is made of

* `readMembers_keeps`   what putting values under names keeps holds of members that were read;
* `Slot.Keeps`          storing what was read keeps a property of the record;
* `readRecord_keeps`    what every slot keeps holds of a record that was read, be it from an object
                        or from a list.
-/

namespace TelemetryGate

variable {κ : Type} {El : κ → Type} {ρ : Type} {s₀ s : List UInt8} {hs : s.length ≤ s₀.length}

/-- Storing what was read into the slot keeps a property of the record. -/
def Slot.Keeps (read : (k : κ) → Json.Reader (El k)) (P : ρ → Prop) (slot : Slot κ El ρ) : Prop :=
  ∀ (s : List UInt8) (r : Read (El slot.kind) s), read slot.kind s = .ok r →
    ∀ record, P record → P (slot.store r.value record)

namespace Json

theorem map_ok {ε α β : Type} {f : α → β} {x : Except ε α} {b : β} (h : x.map f = .ok b) :
    ∃ a, x = .ok a ∧ f a = b := by
  cases x with
  | error e => cases h
  | ok a => exact ⟨a, rfl, Except.ok.inj h⟩

theorem bind_ok {ε α β : Type} {f : α → Except ε β} {x : Except ε α} {b : β}
    (h : x >>= f = .ok b) : ∃ a, x = .ok a ∧ f a = .ok b := by
  cases x with
  | error e => cases h
  | ok a => exact ⟨a, rfl, h⟩

/-! ### maps and what may be nothing -/

theorem readMembers_keeps {α : Type} {value : Reader α} {P : Members α → Prop}
    (hP : ∀ ms name t (r : Read α t), value t = .ok r → P ms → P (Members.insert name r.value ms))
    {first : Bool} {acc : Members α} (hacc : P acc)
    {p : { p : Members α × List UInt8 // p.2.length ≤ s₀.length }}
    (h : readMembers value first acc s hs = .ok p) : P p.1.1 := by
  fun_induction readMembers value first acc s hs with
  | case2 => cases h; exact hacc
  | case6 first acc s hs t ht _ name t₁ h₁ _ t₂ h₂ _ v after h₃ hv _ _ _ ih =>
    exact ih (hP acc name t₂ ⟨v, after, h₃⟩ hv hacc) h
  | _ => cases h

theorem readMap_keeps {α : Type} {value : Nat → Reader α} {depth : Nat} {P : Members α → Prop}
    (hP : ∀ d, depth = d + 1 → ∀ ms name t (r : Read α t), value d t = .ok r → P ms →
      P (Members.insert name r.value ms))
    (hnil : P []) {r : Read (Members α) s} (h : readMap depth value s = .ok r) : P r.value := by
  revert h
  fun_cases readMap depth value s with
  | case3 rest _ d =>
    intro h
    obtain ⟨p, hp, rfl⟩ := map_ok h
    exact readMembers_keeps (hP d rfl) hnil hp
  | _ =>
    intro h
    cases h

theorem readWord_value {α : Type} {b : UInt8} {v : α} {cs : List Char} {r : Read α (b :: s)}
    (h : readWord v cs s = .ok r) : r.value = v := by
  rw [readWord] at h
  cases hw : scanWord cs s with
  | error f => rw [hw] at h; cases h
  | ok t => rw [hw] at h; cases h; rfl

theorem readOptional_some {α : Type} {read : Reader α} {r : Read (Option α) s} {v : α}
    (h : readOptional read s = .ok r) (hv : r.value = some v) :
    ∃ (t : List UInt8) (r' : Read α t), read t = .ok r' ∧ r'.value = v := by
  revert h
  fun_cases readOptional read s with
  | case1 =>
    intro h
    cases h
  | case2 rest _ _ widen =>
    intro h
    obtain ⟨r', hr, rfl⟩ := map_ok h
    have hnone : r'.value = none := readWord_value hr
    cases hnone.symm.trans hv
  | case3 b rest =>
    intro h
    obtain ⟨r', hr, rfl⟩ := map_ok h
    exact ⟨b :: rest, r', hr, Option.some.inj hv⟩

/-! ### records -/

theorem readSlots_keeps {read : (k : κ) → Reader (El k)} {form : Form κ El ρ} {P : ρ → Prop}
    (hslots : ∀ slot ∈ form.slots, slot.Keeps read P) {given : List String} {first : Bool}
    {record : ρ} (hrecord : P record) {p : { p : ρ × List UInt8 // p.2.length ≤ s₀.length }}
    (h : readSlots read form given first record s hs = .ok p) : P p.1.1 := by
  fun_induction readSlots read form given first record s hs with
  | case3 given first record s hs =>
    obtain ⟨t, _, rfl⟩ := map_ok h
    exact hrecord
  | case8 given first record s hs t ht _ name t₁ h₁ _ slot hslot _ t₂ h₂ _ v after h₃ hv _ _ _ ih =>
    have hmem : slot ∈ form.slots := List.mem_of_find?_eq_some hslot
    exact ih (hslots slot hmem t₂ ⟨v, after, h₃⟩ hv record hrecord) h
  | case11 given first record s hs t ht _ name t₁ h₁ _ _ t₂ h₂ _ after h₃ _ _ _ _ ih =>
    exact ih hrecord h
  | _ => cases h

theorem readInOrder_keeps {read : (k : κ) → Reader (El k)} {wanted : String} {P : ρ → Prop}
    {slots : List (Slot κ El ρ)} (hslots : ∀ slot ∈ slots, slot.Keeps read P) {n : Nat}
    {record : ρ} (hrecord : P record) {p : { p : ρ × List UInt8 // p.2.length ≤ s₀.length }}
    (h : readInOrder read wanted n record s hs slots = .ok p) : P p.1.1 := by
  fun_induction readInOrder read wanted n record s hs slots with
  | case1 n record s hs =>
    obtain ⟨t, _, rfl⟩ := map_ok h
    exact hrecord
  | case4 n record s hs slot slots _ _ ih =>
    exact ih (List.forall_mem_cons.mp hslots).2 hrecord h
  | case6 n record s hs slot slots t ht _ v after h₃ hv _ ih =>
    obtain ⟨hslot, hrest⟩ := List.forall_mem_cons.mp hslots
    exact ih hrest (hslot t ⟨v, after, h₃⟩ hv record hrecord) h
  | _ => cases h

/-- **What holds of the blank record and is kept by every slot holds of what was read.** -/
theorem readRecord_keeps {read : Nat → (k : κ) → Reader (El k)} {form : Form κ El ρ}
    {P : ρ → Prop} (hblank : P form.blank) {depth : Nat}
    (hslots : ∀ d, depth = d + 1 → ∀ slot ∈ form.slots, slot.Keeps (read d) P)
    {r : Read ρ s} (h : readRecord read form depth s = .ok r) : P r.value := by
  revert h
  fun_cases readRecord read form depth s with
  | case1 =>
    intro h
    cases h
  | case2 =>
    intro h
    cases h
  | case3 b rest _ _ _ d body =>
    intro h
    obtain ⟨p, hbody, rfl⟩ := map_ok h
    by_cases hb : b = 123
    · exact readSlots_keeps (hslots d rfl) hblank ((if_pos hb).symm.trans hbody)
    · exact readInOrder_keeps (hslots d rfl) hblank ((if_neg hb).symm.trans hbody)
  | case4 =>
    intro h
    cases h

end Json

end TelemetryGate
