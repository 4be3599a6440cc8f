import Mathlib.Data.List.Forall2
import TelemetryGate.Json.Record
import TelemetryGate.Proofs.Json.Between

/-!
# Lists and objects, part by part

Parts with commas between them are read one after another.

* `commas`                             parts with commas between them, and what follows;
* `readItems_commas`                   the items of a list that was printed;
* `memberBytes`, `readMembers_commas`  the members of an object that was printed;
* `Fills`, `readSlots_fills`           members that fill the slots of a record.
-/

namespace TelemetryGate.Json

variable {α : Type} {s s₀ t : List UInt8}

/-! ### parts between commas -/

/-- Parts with a comma before each, but not before a first one, and what follows. -/
def commas (first : Bool) (parts : List (List UInt8)) (s : List UInt8) : List UInt8 :=
  match parts with
  | [] => s
  | part :: parts =>
    if first then part ++ commas false parts s else 44 :: (part ++ commas false parts s)

theorem stops_commas (parts : List (List UInt8)) (hs : Stops s) : Stops (commas false parts s) := by
  cases parts with
  | nil => exact hs
  | cons part parts => exact stops_cons (by decide) _

theorem separator_commas (first : Bool) (part : List UInt8) (parts : List (List UInt8))
    (s : List UInt8) :
    Separator first (commas first (part :: parts) s) (part ++ commas false parts s) := by
  cases first with
  | true => exact .first .done
  | false => exact .next .done .done

/-! ### lists -/

theorem readItems_end {item : Reader α} {acc : List α} (h : Blanks s (93 :: t))
    (hs : s.length ≤ s₀.length) : ∃ h', readItems item acc s hs = .ok ⟨(acc.reverse, t), h'⟩ := by
  obtain ⟨h', hclose⟩ := closeList_end h hs
  refine ⟨h', ?_⟩
  rw [readItems, nextItem_end _ h]
  simp only [hclose]

theorem readItems_next {item : Reader α} {acc : List α} {t after : List UInt8} {v : α}
    {ht : t.length ≤ s.length} (hnext : nextItem acc.isEmpty s Shorter.same = .ok (some ⟨t, ht⟩))
    (hitem : Reads item t v after) (hs : s.length ≤ s₀.length) :
    ∃ hs', readItems item acc s hs = readItems item (v :: acc) after hs' := by
  obtain ⟨h, hitem⟩ := hitem
  refine ⟨Shorter.within_le (Shorter.within h ht) hs, ?_⟩
  rw [readItems, hnext]
  simp only [hitem]

/-- The items of a list that was printed are read, each in its place. -/
theorem readItems_commas {item : Reader α} {vs : List α} {parts : List (List UInt8)}
    (h : List.Forall₂ (Printed item) vs parts) (acc : List α) (s : List UInt8)
    (hs : (commas acc.isEmpty parts (93 :: s)).length ≤ s₀.length) :
    ∃ h', readItems item acc (commas acc.isEmpty parts (93 :: s)) hs =
      .ok ⟨(acc.reverse ++ vs, s), h'⟩ := by
  induction h generalizing acc with
  | nil =>
    rw [List.append_nil]
    exact readItems_end .done hs
  | @cons v part vs parts hv _ ih =>
    obtain ⟨ht, hnext⟩ := nextItem_separator (separator_commas acc.isEmpty part parts _)
      hv.begins
    have hitem := hv.reads _ (stops_commas parts (stops_cons (b := 93) (by decide) s))
    obtain ⟨hs', hstep⟩ := readItems_next hnext hitem hs
    obtain ⟨h', hrest⟩ := ih (v :: acc) hs'
    refine ⟨h', ?_⟩
    rw [hstep]
    refine hrest.trans ?_
    simp only [List.reverse_cons, List.append_assoc, List.singleton_append]

/-! ### objects -/

/-- A member: its name in quotes, a colon and its value. -/
def memberBytes (name : String) (value : List UInt8) : List UInt8 :=
  34 :: (inQuotes name.toList ++ 34 :: 58 :: value)

theorem separator_member (first : Bool) (name : String) (value : List UInt8)
    (parts : List (List UInt8)) (s : List UInt8) :
    Separator first (commas first (memberBytes name value :: parts) s)
      (34 :: (inQuotes name.toList ++ 34 :: 58 :: (value ++ commas false parts s))) := by
  have hsep := separator_commas first (memberBytes name value) parts s
  rwa [memberBytes, List.cons_append, List.append_assoc] at hsep

theorem named_member (first : Bool) (name : String) (value : List UInt8)
    (parts : List (List UInt8)) (s : List UInt8) :
    Named first (commas first (memberBytes name value :: parts) s) name
      (value ++ commas false parts s) :=
  named (separator_member first name value parts s) (quotes_inQuotes name _) .done

theorem key_member (first : Bool) (name : String) (value : List UInt8)
    (parts : List (List UInt8)) (s : List UInt8) :
    Key (Quotes name) first (commas first (memberBytes name value :: parts) s)
      (value ++ commas false parts s) :=
  ⟨_, _, _, separator_member first name value parts s, quotes_inQuotes name _, .done, .done⟩

theorem readMembers_end {value : Reader α} {first : Bool} {acc : Members α}
    (h : Blanks s (125 :: t)) (hs : s.length ≤ s₀.length) :
    ∃ h', readMembers value first acc s hs = .ok ⟨(acc, t), h'⟩ := by
  obtain ⟨h', hclose⟩ := closeObject_end h hs
  refine ⟨h', ?_⟩
  rw [readMembers, nextName_end _ h]
  simp only [hclose]

theorem readMembers_next {value : Reader α} {first : Bool} (acc : Members α) {name : String}
    {t after : List UInt8} {v : α} (hname : Named first s name t) (hvalue : Reads value t v after)
    (hs : s.length ≤ s₀.length) :
    ∃ hs', readMembers value first acc s hs =
      readMembers value false (Members.insert name v acc) after hs' := by
  obtain ⟨t₀, h₀, t₁, h₁, h₂, hnext, hscan, hcolon⟩ := hname
  obtain ⟨h₃, hvalue⟩ := hvalue
  refine ⟨by omega, ?_⟩
  rw [readMembers, hnext]
  simp only [hscan, hcolon, hvalue]

/-- The members of an object that was printed are read, each put over those before it. -/
theorem readMembers_commas {value : Reader α} {ms : Members α} {parts : List (List UInt8)}
    (h : List.Forall₂ (fun m part => ∃ bytes, part = memberBytes m.1 bytes ∧
      Printed value m.2 bytes) ms parts)
    (first : Bool) (acc : Members α) (s : List UInt8)
    (hs : (commas first parts (125 :: s)).length ≤ s₀.length) :
    ∃ h', readMembers value first acc (commas first parts (125 :: s)) hs =
      .ok ⟨(Members.extend acc ms, s), h'⟩ := by
  induction h generalizing first acc with
  | nil => exact readMembers_end .done hs
  | @cons m part ms parts hm _ ih =>
    obtain ⟨bytes, rfl, hprinted⟩ := hm
    have hvalue := hprinted.reads _ (stops_commas parts (stops_cons (b := 125) (by decide) s))
    obtain ⟨hs', hstep⟩ := readMembers_next acc (named_member first m.1 bytes parts _)
      hvalue hs
    obtain ⟨h', hrest⟩ := ih false (Members.insert m.1 m.2 acc) hs'
    exact ⟨h', hstep.trans hrest⟩

/-! ### records -/

section

variable {κ : Type} {El : κ → Type} {ρ : Type} {read : (k : κ) → Reader (El k)}
  {form : Form κ El ρ} {given given' : List String} {record record' : ρ}

/-- Members that were printed for slots of their own, and the record they make of another. -/
inductive Fills (read : (k : κ) → Reader (El k)) (form : Form κ El ρ) :
    List String → ρ → List (List UInt8) → List String → ρ → Prop
  | nil {given : List String} {record : ρ} : Fills read form given record [] given record
  | slot {given given' : List String} {record record' : ρ} (name : String) {slot : Slot κ El ρ}
    {v : El slot.kind} {bytes : List UInt8} {parts : List (List UInt8)}
    (found : form.slot? name = some slot) (new : given.contains slot.name = false)
    (printed : Printed (read slot.kind) v bytes)
    (rest : Fills read form (slot.name :: given) (slot.store v record) parts given' record') :
    Fills read form given record (memberBytes name bytes :: parts) given' record'

theorem readSlots_end {first : Bool} (hall : form.missing? given = none)
    (h : Blanks s (125 :: t)) (hs : s.length ≤ s₀.length) :
    ∃ h', readSlots read form given first record s hs = .ok ⟨(record, t), h'⟩ := by
  obtain ⟨h', hclose⟩ := closeObject_end h hs
  refine ⟨h', ?_⟩
  rw [readSlots, nextName_end _ h]
  simp only [hall, hclose]
  rfl

theorem readSlots_next (record : ρ) {first : Bool} {name : String} {slot : Slot κ El ρ}
    {v : El slot.kind} {t after : List UInt8} (hname : Named first s name t)
    (hslot : form.slot? name = some slot) (hnew : given.contains slot.name = false)
    (hvalue : Reads (read slot.kind) t v after)
    (hs : s.length ≤ s₀.length) :
    ∃ hs', readSlots read form given first record s hs =
      readSlots read form (slot.name :: given) false (slot.store v record) after hs' := by
  obtain ⟨t₀, h₀, t₁, h₁, h₂, hnext, hscan, hcolon⟩ := hname
  obtain ⟨h₃, hvalue⟩ := hvalue
  refine ⟨by omega, ?_⟩
  rw [readSlots, hnext]
  simp only [hscan, hslot, hnew, hcolon, hvalue, Bool.false_eq_true, if_false]

/-- Members that were printed fill a record. -/
theorem readSlots_fills {parts : List (List UInt8)}
    (h : Fills read form given record parts given' record') (hall : form.missing? given' = none)
    (first : Bool) (s : List UInt8) (hs : (commas first parts (125 :: s)).length ≤ s₀.length) :
    ∃ h', readSlots read form given first record (commas first parts (125 :: s)) hs =
      .ok ⟨(record', s), h'⟩ := by
  induction h generalizing first with
  | nil => exact readSlots_end hall .done hs
  | @slot given given' record record' name slot v bytes parts found new printed _ ih =>
    have hvalue := printed.reads _ (stops_commas parts (stops_cons (b := 125) (by decide) s))
    obtain ⟨hs', hstep⟩ := readSlots_next record
      (named_member first name bytes parts _) found new hvalue hs
    obtain ⟨h', hrest⟩ := ih hall false hs'
    exact ⟨h', hstep.trans hrest⟩

/-- A record whose members were printed is read. -/
theorem readRecord_fills {read : Nat → (k : κ) → Reader (El k)} {depth : Nat}
    {parts : List (List UInt8)} (h : Fills (read depth) form [] form.blank parts given' record')
    (hall : form.missing? given' = none) (s : List UInt8) :
    Reads (readRecord read form (depth + 1)) (123 :: commas true parts (125 :: s)) record' s := by
  obtain ⟨h', hbody⟩ := readSlots_fills h hall true s Shorter.same
  refine ⟨Shorter.cons h', ?_⟩
  rw [readRecord, ahead_cons (by decide)]
  simp only [hbody]
  rfl

end

end TelemetryGate.Json
