import Mathlib.Data.String.Basic
import TelemetryGate.Members

/-!
# Members in order

* `Members.Sorted.insert` putting a value under a name keeps that;
* `Members.extend_of_sorted` members in order are put one behind the other;
* `Members.Traversal.find?_visit` in whatever order they come, the same stands under each name;
* `Members.ext`           members in order are known by what stands under each name;
* `Members.find?_extend`  what stands under a name when members are put over others;
* `Members.extend_map`    members go over others as their values do.
-/

namespace TelemetryGate.Members

variable {α : Type} {a b ms : Members α} {name key : String} {value v : α}

theorem sorted_nil : Sorted ([] : Members α) := List.Pairwise.nil

theorem sorted_cons : Sorted ((key, v) :: ms) ↔ (∀ m ∈ ms, key < m.1) ∧ Sorted ms :=
  List.pairwise_cons

/-! ### what stands under a name -/

theorem find?_cons_self (key : String) (v : α) (ms : Members α) :
    find? key ((key, v) :: ms) = some v := by
  rw [find?, if_pos rfl]

theorem find?_cons_of_ne (h : key ≠ name) (v : α) (ms : Members α) :
    find? name ((key, v) :: ms) = find? name ms := by
  rw [find?, if_neg h]

theorem find?_of_lt (h : ∀ m ∈ ms, name < m.1) : ms.find? name = none := by
  induction ms with
  | nil => rfl
  | cons m ms ih =>
    obtain ⟨key, v⟩ := m
    obtain ⟨hk, hms⟩ := List.forall_mem_cons.mp h
    rw [find?_cons_of_ne (ne_of_gt hk), ih hms]

theorem mem_of_find? (h : ms.find? name = some v) : (name, v) ∈ ms := by
  induction ms with
  | nil => cases h
  | cons m ms ih =>
    obtain ⟨key, u⟩ := m
    by_cases hk : key = name
    · subst hk
      rw [find?_cons_self] at h
      cases h
      exact List.mem_cons_self
    · rw [find?_cons_of_ne hk] at h
      exact List.mem_cons_of_mem _ (ih h)

/-- Of members with names of their own each one is found under its name. -/
theorem find?_of_mem_nodup (h : (ms.map (·.1)).Nodup) {m : String × α} (hm : m ∈ ms) :
    ms.find? m.1 = some m.2 := by
  induction ms with
  | nil => cases hm
  | cons n ms ih =>
    obtain ⟨key, u⟩ := n
    rw [List.map_cons, List.nodup_cons] at h
    rcases List.mem_cons.mp hm with rfl | hmem
    · exact find?_cons_self ..
    · have hne : key ≠ m.1 := by
        intro hkey
        exact h.1 (List.mem_map.mpr ⟨m, hmem, hkey.symm⟩)
      rw [find?_cons_of_ne hne]
      exact ih h.2 hmem

theorem Sorted.nodup (h : Sorted ms) : (ms.map (·.1)).Nodup :=
  (List.pairwise_map.mpr h).imp fun hlt => ne_of_lt hlt

theorem find?_of_mem (h : Sorted ms) {m : String × α} (hm : m ∈ ms) :
    ms.find? m.1 = some m.2 := find?_of_mem_nodup h.nodup hm

namespace Traversal

/-- In the reverse order of their names. -/
def backwards : Traversal α := ⟨List.reverse, List.reverse_perm⟩

variable (t : Traversal α)

theorem mem_visit {m : String × α} : m ∈ t.visit ms ↔ m ∈ ms := (t.perm ms).mem_iff

theorem nodup_visit (h : Sorted ms) : ((t.visit ms).map (·.1)).Nodup :=
  ((t.perm ms).map _).nodup_iff.mpr h.nodup

/-- In whatever order members come, the same stands under each name. -/
theorem find?_visit (h : Sorted ms) (name : String) :
    find? name (t.visit ms) = find? name ms := by
  cases hfind : find? name ms with
  | some v => exact find?_of_mem_nodup (t.nodup_visit h) (t.mem_visit.mpr (mem_of_find? hfind))
  | none =>
    rw [Option.eq_none_iff_forall_ne_some]
    intro v hv
    have hmem := find?_of_mem h (t.mem_visit.mp (mem_of_find? hv))
    rw [hfind] at hmem
    cases hmem

end Traversal

/-- **Members in order are the same if the same stands under each name.** -/
theorem Sorted.ext (ha : Sorted a) (hb : Sorted b)
    (h : ∀ name, a.find? name = b.find? name) : a = b := by
  induction a generalizing b with
  | nil =>
    cases b with
    | nil => rfl
    | cons n b =>
      have hn := h n.1
      rw [find?_cons_self] at hn
      cases hn
  | cons m a ih =>
    obtain ⟨k, v⟩ := m
    obtain ⟨hka, ha'⟩ := sorted_cons.mp ha
    cases b with
    | nil =>
      have hk := h k
      rw [find?_cons_self] at hk
      cases hk
    | cons n b =>
      obtain ⟨k', v'⟩ := n
      obtain ⟨hkb, hb'⟩ := sorted_cons.mp hb
      -- the lesser one of the first names would stand in one list only
      obtain hlt | rfl | hlt := lt_trichotomy k k'
      · have hk := h k
        rw [find?_cons_self, find?_of_lt] at hk
        · cases hk
        · exact List.forall_mem_cons.mpr ⟨hlt, fun n hn => hlt.trans (hkb n hn)⟩
      · have hv := h k
        rw [find?_cons_self, find?_cons_self] at hv
        have hab : a = b := by
          refine ih ha' hb' fun name => ?_
          by_cases e : k = name
          · rw [← e, find?_of_lt hka, find?_of_lt hkb]
          · rw [← find?_cons_of_ne e v a, h, find?_cons_of_ne e]
        rw [Option.some.inj hv, hab]
      · have hk := h k'
        rw [find?_cons_self, find?_of_lt] at hk
        · cases hk
        · exact List.forall_mem_cons.mpr ⟨hlt, fun n hn => hlt.trans (hka n hn)⟩

/-! ### putting a value under a name -/

theorem mem_insert {m : String × α} (h : m ∈ ms.insert name value) :
    m = (name, value) ∨ m ∈ ms := by
  induction ms with
  | nil => exact .inl (List.mem_singleton.mp h)
  | cons n ms ih =>
    obtain ⟨k, v⟩ := n
    rw [insert] at h
    by_cases hlt : name < k
    · rw [if_pos hlt] at h
      exact List.mem_cons.mp h
    · rw [if_neg hlt] at h
      by_cases heq : name = k
      · rw [if_pos heq] at h
        exact (List.mem_cons.mp h).imp_right (List.mem_cons_of_mem _)
      · rw [if_neg heq] at h
        rcases List.mem_cons.mp h with rfl | h
        · exact .inr List.mem_cons_self
        · exact (ih h).imp_right (List.mem_cons_of_mem _)

theorem Sorted.insert (h : Sorted ms) (name : String) (value : α) :
    Sorted (ms.insert name value) := by
  induction ms with
  | nil => exact List.pairwise_singleton ..
  | cons m ms ih =>
    obtain ⟨k, v⟩ := m
    obtain ⟨hk, hms⟩ := sorted_cons.mp h
    rw [Members.insert]
    by_cases hlt : name < k
    · rw [if_pos hlt]
      refine sorted_cons.mpr ⟨?_, h⟩
      exact List.forall_mem_cons.mpr ⟨hlt, fun n hn => hlt.trans (hk n hn)⟩
    · rw [if_neg hlt]
      by_cases heq : name = k
      · rw [if_pos heq]
        exact sorted_cons.mpr ⟨by rwa [heq], hms⟩
      · rw [if_neg heq]
        refine sorted_cons.mpr ⟨fun n hn => ?_, ih hms⟩
        rcases mem_insert hn with rfl | hn
        · exact lt_of_le_of_ne (not_lt.mp hlt) (Ne.symm heq)
        · exact hk n hn

theorem insert_last (h : ∀ m ∈ ms, m.1 < name) :
    ms.insert name value = ms ++ [(name, value)] := by
  induction ms with
  | nil => rfl
  | cons m ms ih =>
    obtain ⟨k, v⟩ := m
    obtain ⟨hk, hms⟩ := List.forall_mem_cons.mp h
    rw [insert, if_neg (lt_asymm hk), if_neg (ne_of_gt hk), ih hms, List.cons_append]

/-- Members in order go behind those before them. -/
theorem extend_of_sorted (h : Sorted (a ++ b)) : extend a b = a ++ b := by
  induction b generalizing a with
  | nil => exact (List.append_nil a).symm
  | cons m b ih =>
    obtain ⟨k, v⟩ := m
    have hlast : ∀ m ∈ a, m.1 < k := fun m hm =>
      (List.pairwise_append.mp h).2.2 m hm (k, v) List.mem_cons_self
    have hmid : a ++ (k, v) :: b = (a ++ [(k, v)]) ++ b := by rw [List.append_assoc]; rfl
    show extend (a.insert k v) b = _
    rw [hmid] at h ⊢
    rw [insert_last hlast, ih h]

/-! ### putting members over others -/

theorem sorted_extend {acc : Members α} (h : Sorted acc) (ms : Members α) :
    Sorted (extend acc ms) := by
  induction ms generalizing acc with
  | nil => exact h
  | cons m ms ih => exact ih (h.insert m.1 m.2)

theorem mem_extend {acc ms : Members α} {m : String × α} (h : m ∈ extend acc ms) :
    m ∈ acc ∨ m ∈ ms := by
  induction ms generalizing acc with
  | nil => exact .inl h
  | cons n ms ih =>
    rcases ih h with hm | hm
    · rcases mem_insert hm with rfl | hm
      · exact .inr List.mem_cons_self
      · exact .inl hm
    · exact .inr (List.mem_cons_of_mem _ hm)

/-- What is not put over stays. -/
theorem find?_extend_of_not_mem {acc ms : Members α} {name : String}
    (h : name ∉ ms.map (·.1)) : find? name (extend acc ms) = find? name acc := by
  induction ms generalizing acc with
  | nil => rfl
  | cons m ms ih =>
    rw [List.map_cons, List.mem_cons, not_or] at h
    show find? name (extend (insert m.1 m.2 acc) ms) = _
    rw [ih h.2, find?_insert_of_ne h.1]

/-- What is put over members in order stands under its names, and under the others they do. -/
theorem find?_extend {acc ms : Members α} (h : Sorted ms) (name : String) :
    find? name (extend acc ms) = (find? name ms).or (find? name acc) := by
  induction ms generalizing acc with
  | nil => rfl
  | cons m ms ih =>
    obtain ⟨k, v⟩ := m
    obtain ⟨hk, hms⟩ := sorted_cons.mp h
    show find? name (extend (insert k v acc) ms) = _
    rw [ih hms]
    by_cases hname : k = name
    · subst hname
      rw [find?_of_lt hk, find?_cons_self, find?_insert_self]
      rfl
    · rw [find?_cons_of_ne hname, find?_insert_of_ne (Ne.symm hname)]

/-- Of members with names of their own each one stands under its name. -/
theorem find?_ofList_of_mem {ms : List (String × α)} (hnodup : (ms.map (·.1)).Nodup)
    {m : String × α} (hm : m ∈ ms) : find? m.1 (ofList ms) = some m.2 := by
  have hall : ∀ acc : Members α, find? m.1 (extend acc ms) = some m.2 := by
    induction ms with
    | nil => cases hm
    | cons n ms ih =>
      intro acc
      rw [List.map_cons, List.nodup_cons] at hnodup
      show find? m.1 (extend (insert n.1 n.2 acc) ms) = _
      rcases List.mem_cons.mp hm with rfl | hm
      · rw [find?_extend_of_not_mem hnodup.1, find?_insert_self]
      · exact ih hnodup.2 hm _
  exact hall []

section
variable {β : Type}

theorem find?_map (f : α → β) (name : String) (ms : Members α) :
    find? name (ms.map fun m => (m.1, f m.2)) = (find? name ms).map f := by
  induction ms with
  | nil => rfl
  | cons m ms ih =>
    obtain ⟨key, v⟩ := m
    rw [List.map_cons]
    by_cases hkey : key = name
    · subst hkey
      rw [find?_cons_self, find?_cons_self]
      rfl
    · rw [find?_cons_of_ne hkey, find?_cons_of_ne hkey, ih]

theorem insert_map (f : α → β) (name : String) (v : α) (ms : Members α) :
    (ms.insert name v).map (fun m => (m.1, f m.2)) =
      insert name (f v) (ms.map fun m => (m.1, f m.2)) := by
  induction ms with
  | nil => rfl
  | cons m ms ih =>
    obtain ⟨key, u⟩ := m
    rw [List.map_cons, insert, insert]
    by_cases hlt : name < key
    · rw [if_pos hlt, if_pos hlt, List.map_cons, List.map_cons]
    · rw [if_neg hlt, if_neg hlt]
      by_cases heq : name = key
      · rw [if_pos heq, if_pos heq, List.map_cons]
      · rw [if_neg heq, if_neg heq, List.map_cons, ih]

theorem extend_map (f : α → β) (acc ms : Members α) :
    (extend acc ms).map (fun m => (m.1, f m.2)) =
      extend (acc.map fun m => (m.1, f m.2)) (ms.map fun m => (m.1, f m.2)) := by
  induction ms generalizing acc with
  | nil => rfl
  | cons m ms ih =>
    show (extend (insert m.1 m.2 acc) ms).map _ = _
    rw [ih, insert_map]
    rfl

end

end TelemetryGate.Members
