import Mathlib.Data.List.Nodup
import TelemetryGate.Proofs.Setting.Standing
import TelemetryGate.Setting.Conversion

/-!
# Records from tables

What a record made of a table holds, slot by slot.

* `Form.Loose`             a form whose slots have one name each, none of which must be given;
* `Form.Lens`              a slot and what a record shows of it;
* `Form.fillMembers_ok`    values that can be converted fill a record, each its own slot;
* `Setting.toTexts_ok`     so it is with texts under names;
* `Setting.record_ok`      and with a table at the end of a way.
-/

namespace TelemetryGate

namespace Form

variable {κ : Type} {El : κ → Type} {ρ : Type}

structure Loose (form : Form κ El ρ) : Prop where
  nodup : (form.slots.map (·.name)).Nodup
  unaliased : ∀ s ∈ form.slots, s.alsoNamed = none
  optional : ∀ s ∈ form.slots, s.required = false

/-- A slot of a form, and what a record shows of it: what is stored into it and no other slot. -/
structure Lens (form : Form κ El ρ) where
  slot : Slot κ El ρ
  get : ρ → El slot.kind
  mem : slot ∈ form.slots
  get_store : ∀ v r, get (slot.store v r) = v
  get_store_of_ne : ∀ s ∈ form.slots, s.name ≠ slot.name → ∀ v r, get (s.store v r) = get r

variable {form : Form κ El ρ} {name : String} {slot : Slot κ El ρ}

theorem slot?_some (hform : form.Loose) (h : form.slot? name = some slot) :
    slot ∈ form.slots ∧ slot.name = name := by
  have hmem := List.mem_of_find?_eq_some h
  have hname := List.find?_some h
  rw [hform.unaliased slot hmem] at hname
  simp only [reduceCtorEq, decide_false, Bool.or_false, decide_eq_true_eq] at hname
  exact ⟨hmem, hname⟩

theorem slot?_name (hform : form.Loose) (h : slot ∈ form.slots) :
    form.slot? slot.name = some slot := by
  cases hfound : form.slot? slot.name with
  | none =>
    have hno := List.find?_eq_none.mp hfound slot h
    rw [decide_eq_true rfl, Bool.true_or] at hno
    exact absurd rfl hno
  | some slot' =>
    obtain ⟨hmem, hname⟩ := slot?_some hform hfound
    rw [List.inj_on_of_nodup_map hform.nodup hmem h hname]

theorem missing?_of_loose (hform : form.Loose) (given : List String) :
    form.missing? given = none := by
  refine List.find?_eq_none.mpr fun s hs => ?_
  rw [hform.optional s hs, Bool.false_and]
  exact Bool.false_ne_true

variable {ν ε : Type} (fault : Mismatch → ε)
  (convert : String → (k : κ) → ν → Except ε (El k))

/-- **Values that can be converted fill a record: each slot shows the value under its name, and what
it showed before if there is none.** -/
theorem fillMembers_ok (hform : form.Loose) {ms : List (String × ν)}
    (hnames : (ms.map (·.1)).Nodup) {given : List String} (hnew : ∀ m ∈ ms, m.1 ∉ given)
    (hconvert : ∀ m ∈ ms, ∀ slot ∈ form.slots, slot.name = m.1 →
      ∃ x, convert m.1 slot.kind m.2 = .ok x) (record : ρ) :
    ∃ r, fillMembers fault convert form given record ms = .ok r ∧ ∀ l : form.Lens,
      (∀ v, Members.find? l.slot.name ms = some v →
        convert l.slot.name l.slot.kind v = .ok (l.get r)) ∧
      (Members.find? l.slot.name ms = none → l.get r = l.get record) := by
  induction ms generalizing given record with
  | nil =>
    refine ⟨record, ?_, fun l => ⟨fun v hv => (nomatch hv), fun _ => rfl⟩⟩
    rw [fillMembers, missing?_of_loose hform]
  | cons m rest ih =>
    obtain ⟨name, v⟩ := m
    obtain ⟨hname, hrest⟩ := List.nodup_cons.mp hnames
    obtain ⟨hgiven, hnew'⟩ := List.forall_mem_cons.mp hnew
    obtain ⟨hv, hconvert'⟩ := List.forall_mem_cons.mp hconvert
    have habsent : Members.find? name rest = none := by
      cases hfind : Members.find? name rest with
      | none => rfl
      | some u => exact absurd (List.mem_map_of_mem (Members.mem_of_find? hfind)) hname
    cases hslot : form.slot? name with
    | none =>
      -- a member of no slot is passed over
      obtain ⟨r, hr, hlens⟩ := ih hrest hnew' hconvert' record
      refine ⟨r, ?_, fun l => ?_⟩
      · rw [fillMembers, hslot]
        exact hr
      · have hne : name ≠ l.slot.name := by
          rintro rfl
          rw [slot?_name hform l.mem] at hslot
          cases hslot
        rw [Members.find?_cons_of_ne hne]
        exact hlens l
    | some slot =>
      obtain ⟨hmem, rfl⟩ := slot?_some hform hslot
      obtain ⟨x, hx⟩ := hv slot hmem rfl
      have hnew'' : ∀ m ∈ rest, m.1 ∉ slot.name :: given := by
        intro m hm hin
        rcases List.mem_cons.mp hin with heq | hin
        · exact hname (List.mem_map.mpr ⟨m, hm, heq⟩)
        · exact hnew' m hm hin
      obtain ⟨r, hr, hlens⟩ := ih hrest hnew'' hconvert' (slot.store x record)
      refine ⟨r, ?_, fun l => ?_⟩
      · have hcontains : given.contains slot.name = false := by
          rw [List.contains_eq_mem, decide_eq_false hgiven]
        rw [fillMembers, hslot]
        simp only [hcontains, Bool.false_eq_true, if_false, hx]
        exact hr
      · by_cases hl : l.slot = slot
        · subst hl
          rw [Members.find?_cons_self]
          refine ⟨fun u hu => ?_, fun hnone => nomatch hnone⟩
          cases hu
          rw [hx, (hlens l).2 habsent, l.get_store]
        · have hne : slot.name ≠ l.slot.name := fun e =>
            hl (List.inj_on_of_nodup_map hform.nodup l.mem hmem e.symm)
          rw [Members.find?_cons_of_ne hne]
          refine ⟨(hlens l).1, fun hnone => ?_⟩
          rw [(hlens l).2 hnone, l.get_store_of_ne slot hmem hne]

end Form

namespace Setting

theorem mapError_eq_ok {ε ε' α : Type} {f : ε → ε'} {r : Except ε α} {x : α} :
    r.mapError f = .ok x ↔ r = .ok x := by
  cases r with
  | error e => exact iff_of_false (fun h => nomatch h) (fun h => nomatch h)
  | ok y => exact ⟨fun h => congrArg Except.ok (Except.ok.inj h), fun h => congrArg _ h⟩

theorem toTexts_names {ms : List (String × Setting)} {texts : Members String}
    (h : toTexts ms = .ok texts) : texts.map (·.1) = ms.map (·.1) := by
  induction ms generalizing texts with
  | nil =>
    cases h
    rfl
  | cons m ms ih =>
    obtain ⟨name, v⟩ := m
    rw [toTexts] at h
    cases hv : v.toText with
    | error f =>
      rw [hv] at h
      cases h
    | ok text =>
      cases hrest : toTexts ms with
      | error f =>
        rw [hv, hrest] at h
        cases h
      | ok rest =>
        rw [hv, hrest] at h
        cases h
        rw [List.map_cons, List.map_cons, ih hrest]

theorem sorted_toTexts {ms : List (String × Setting)} {texts : Members String}
    (hms : Members.Sorted ms) (h : toTexts ms = .ok texts) : Members.Sorted texts := by
  have hnames : (texts.map (·.1)).Pairwise (· < ·) := by
    rw [toTexts_names h]
    exact List.pairwise_map.mpr hms
  exact List.pairwise_map.mp hnames

/-- Texts under names are taken as they are, each under its own. -/
theorem toTexts_ok {ms : List (String × Setting)} (h : ∀ m ∈ ms, ∃ x, m.2.toText = .ok x) :
    ∃ texts, toTexts ms = .ok texts ∧ ∀ name,
      (∀ v, Members.find? name ms = some v →
        ∃ x, v.toText = .ok x ∧ Members.find? name texts = some x) ∧
      (Members.find? name ms = none → Members.find? name texts = none) := by
  induction ms with
  | nil => exact ⟨[], rfl, fun name => ⟨fun v hv => (nomatch hv), fun _ => rfl⟩⟩
  | cons m rest ih =>
    obtain ⟨key, s⟩ := m
    obtain ⟨⟨x, hx⟩, hrest⟩ := List.forall_mem_cons.mp h
    obtain ⟨texts, htexts, hfind⟩ := ih hrest
    refine ⟨(key, x) :: texts, ?_, fun name => ?_⟩
    · rw [toTexts, hx, htexts]
      rfl
    · by_cases hk : key = name
      · subst hk
        rw [Members.find?_cons_self, Members.find?_cons_self]
        refine ⟨fun v hv => ?_, fun hnone => nomatch hnone⟩
        cases hv
        exact ⟨x, hx, rfl⟩
      · rw [Members.find?_cons_of_ne hk, Members.find?_cons_of_ne hk]
        exact hfind name

variable {κ : Type} {El : κ → Type} {ρ : Type} {form : Form κ El ρ}
  {convert : (k : κ) → Setting → Except SettingFault (El k)}

/-- **A table at the end of a way makes a record, if each of its members that has a slot can be
converted: each slot shows its member.** -/
theorem record_ok (hform : form.Loose) {root : Setting} (htidy : root.Tidy) {way : List String}
    (hway : ∀ v, root.standing way ≠ .value v)
    (hconvert : ∀ slot ∈ form.slots, ∀ v, root.at? (way ++ [slot.name]) = some v →
      ∃ x, convert slot.kind v = .ok x) :
    ∃ r, (∀ t, root.at? way = some t → toRecord convert form t = .ok r) ∧
      (root.at? way = none → r = form.blank) ∧ ∀ l : form.Lens,
        (∀ v, root.at? (way ++ [l.slot.name]) = some v → convert l.slot.kind v = .ok (l.get r)) ∧
        (root.at? (way ++ [l.slot.name]) = none → l.get r = l.get form.blank) := by
  rcases at?_of_standing hway with hnone | ⟨ms, origin, hsome⟩
  · have hbeyond : ∀ name, root.at? (way ++ [name]) = none := by
      intro name
      rw [at?_append, hnone]
      rfl
    refine ⟨form.blank, fun t ht => ?_, fun _ => rfl, fun l => ⟨fun v hv => ?_, fun _ => rfl⟩⟩
    · rw [hnone] at ht
      cases ht
    · rw [hbeyond] at hv
      cases hv
  · have hat : ∀ name, root.at? (way ++ [name]) = Members.find? name ms := by
      intro name
      rw [at?_append, hsome]
      show (Members.find? name ms).bind some = _
      exact Option.bind_fun_some _
    have hsorted : Members.Sorted ms := (htidy.at? hsome).members.1
    have hnames : (ms.map (·.1)).Nodup :=
      (List.pairwise_map.mpr hsorted).imp fun hlt => ne_of_lt hlt
    have hconvert' : ∀ m ∈ ms, ∀ slot ∈ form.slots, slot.name = m.1 →
        ∃ x, (convert slot.kind m.2).mapError (SettingFault.under (.name m.1)) = .ok x := by
      intro m hm slot hslot hname
      have hfind : Members.find? slot.name ms = some m.2 := by
        rw [hname]
        exact Members.find?_of_mem hsorted hm
      obtain ⟨x, hx⟩ := hconvert slot hslot m.2 ((hat slot.name).trans hfind)
      exact ⟨x, mapError_eq_ok.mpr hx⟩
    have hnew : ∀ m ∈ ms, m.1 ∉ ([] : List String) := fun _ _ => List.not_mem_nil
    obtain ⟨r, hr, hlens⟩ := Form.fillMembers_ok SettingFault.shape
      (fun name k s => (convert k s).mapError (SettingFault.under (.name name)))
      hform hnames hnew hconvert' form.blank
    refine ⟨r, fun t ht => ?_, fun hno => ?_, fun l => ?_⟩
    · rw [hsome] at ht
      cases ht
      exact hr
    · rw [hsome] at hno
      cases hno
    · rw [hat]
      exact ⟨fun v hv => mapError_eq_ok.mp ((hlens l).1 v hv), (hlens l).2⟩

end Setting

end TelemetryGate
