import TelemetryGate.Proofs.Settings.Written

/-!
# What objects say as layers

The members of an object are members of a table, and what the leaves of the table say of a way is
what the member under its first name says of the rest.

* `Members.Plain`          names in order and in lower case;
* `Leaf.last?_object`      what an object says of a way;
* `Layer.leaves_eq`        the leaves of a layer whose names are each a single step;
* `Kind.Written.toKind`    what has a text makes a setting that is converted to it again.
-/

namespace TelemetryGate

open Json

/-! ### the leaves of tables -/

/-- Names in order and in lower case. -/
structure Members.Plain {α : Type} (ms : Members α) : Prop where
  sorted : Members.Sorted ms
  lower : ∀ m ∈ ms, Text.lower m.1 = m.1

theorem Members.Plain.map {α β : Type} {ms : Members α} (h : Members.Plain ms) (f : α → β) :
    Members.Plain (ms.map fun m => (m.1, f m.2)) := by
  refine ⟨List.pairwise_map.mpr h.sorted, fun m hm => ?_⟩
  obtain ⟨m', hm', rfl⟩ := List.mem_map.mp hm
  exact h.lower m' hm'

namespace Setting

variable {origin : Option String} {ms : List (String × Setting)} {l : Leaf}

theorem membersOfJson_eq (origin : Option String) (ms : Properties) :
    membersOfJson origin ms = ms.map fun m => (m.1, ofJson origin m.2) := by
  induction ms with
  | nil => rfl
  | cons m ms ih =>
    obtain ⟨name, v⟩ := m
    rw [membersOfJson, ih]
    rfl

theorem find?_membersOfJson (origin : Option String) (name : String) (ms : Properties) :
    Members.find? name (membersOfJson origin ms) =
      (Members.find? name ms).map (ofJson origin) := by
  rw [membersOfJson_eq, Members.find?_map]

theorem leavesOf_eq (ms : List (String × Setting)) :
    leavesOf ms = ms.flatMap fun m => m.2.leaves.map (.under [Text.lower m.1]) := by
  induction ms with
  | nil => rfl
  | cons m ms ih =>
    obtain ⟨name, v⟩ := m
    rw [leavesOf, ih, List.flatMap_cons]

theorem leaves_of_not_table {v : Setting} (h : ∀ ms origin, v ≠ .table ms origin) :
    v.leaves = [⟨[], v⟩] := by
  cases v with
  | single v origin => rw [leaves]
  | list vs origin => rw [leaves]
  | table ms origin => exact absurd rfl (h ms origin)

/-- A leaf of a table is the table itself, if that is empty, or a leaf of one of its members. -/
theorem mem_leaves_table (h : l ∈ (table ms origin).leaves) :
    ms = [] ∧ l = ⟨[], .table [] origin⟩ ∨
      ∃ m ∈ ms, ∃ l' ∈ m.2.leaves, l = l'.under [Text.lower m.1] := by
  cases ms with
  | nil =>
    rw [leaves, List.mem_singleton] at h
    exact .inl ⟨rfl, h⟩
  | cons m ms =>
    rw [leaves, leavesOf_eq] at h
    obtain ⟨m', hm', hl⟩ := List.mem_flatMap.mp h
    obtain ⟨l', hl', rfl⟩ := List.mem_map.mp hl
    exact .inr ⟨m', hm', l', hl', rfl⟩

end Setting

namespace Leaf

variable {ms : List (String × Setting)} {n : String} {way : List String}

theorem last?_under (m : String) (ls : List Leaf) :
    last? (n :: way) (ls.map (.under [m])) = if m = n then last? way ls else none := by
  unfold last?
  rw [List.filter_map]
  by_cases hm : m = n
  · subst hm
    have hway : (fun l : Leaf => decide (l.way = m :: way)) ∘ Leaf.under [m] =
        fun l => decide (l.way = way) := by
      funext l
      simp [Leaf.under]
    rw [if_pos rfl, hway, List.getLast?_map, Option.map_map]
    rfl
  · have hnone : ls.filter ((fun l : Leaf => decide (l.way = n :: way)) ∘ Leaf.under [m]) = [] := by
      refine List.filter_eq_nil_iff.mpr fun l _ => ?_
      simp [Leaf.under, hm]
    rw [if_neg hm, hnone]
    rfl

/-- What members in order say of a way is what the one under its first name says of the rest. -/
theorem last?_leavesOf (h : Members.Plain ms) :
    last? (n :: way) (Setting.leavesOf ms) =
      (Members.find? n ms).bind fun v => last? way v.leaves := by
  induction ms with
  | nil => rfl
  | cons m ms ih =>
    obtain ⟨key, v⟩ := m
    obtain ⟨hkey, hsorted⟩ := Members.sorted_cons.mp h.sorted
    obtain ⟨hlow, hlows⟩ := List.forall_mem_cons.mp h.lower
    have hlow' : Text.lower key = key := hlow
    rw [Setting.leavesOf, last?_append, last?_under, hlow', ih ⟨hsorted, hlows⟩]
    by_cases hn : key = n
    · subst hn
      rw [Members.find?_cons_self, Members.find?_of_lt hkey, if_pos rfl]
      rfl
    · rw [Members.find?_cons_of_ne hn, if_neg hn, Option.or_none]

/-- So it is with a table. -/
theorem last?_table (h : Members.Plain ms) (origin : Option String) :
    last? (n :: way) (Setting.table ms origin).leaves =
      (Members.find? n ms).bind fun v => last? way v.leaves := by
  cases ms with
  | nil => rfl
  | cons m ms =>
    rw [Setting.leaves]
    exact last?_leavesOf h

/-- So it is with an object, where that one has a value of its own. -/
theorem last?_object {ms : Properties} (h : Members.Plain ms) (origin : Option String) :
    last? (n :: way) (Setting.ofJson origin (.object ms)).leaves =
      (Members.find? n ms).bind fun v => last? way (Setting.ofJson origin v).leaves := by
  have hplain : Members.Plain (Setting.membersOfJson origin ms) := by
    rw [Setting.membersOfJson_eq]
    exact h.map _
  rw [Setting.ofJson, last?_table hplain, Setting.find?_membersOfJson, Option.bind_map]
  rfl

end Leaf

/-- A layer whose names are each a single step. -/
theorem Layer.leaves_eq {layer : Layer}
    (h : ∀ m ∈ layer, Layer.way? m.1 = some [Text.lower m.1]) :
    layer.leaves = Setting.leavesOf layer := by
  rw [Layer.leaves, Setting.leavesOf_eq]
  refine List.flatMap_congr fun m hm => ?_
  rw [h m hm]

/-! ### what is given, as a setting -/

section
variable {k : Kind} {x : k.El} {s t : List UInt8}

theorem Setting.toTexts_membersOfJson (origin : Option String) (ms : Members String) :
    Setting.toTexts (Setting.membersOfJson origin (ms.map fun m => (m.1, .text m.2))) = .ok ms := by
  induction ms with
  | nil => rfl
  | cons m ms ih =>
    rw [List.map_cons, Setting.membersOfJson, Setting.ofJson, Setting.toTexts, ih]
    rfl

theorem Setting.ofJson_ne_nothing {v : Json} (h : v ≠ .null) (origin origin' : Option String) :
    Setting.ofJson origin v ≠ .single .nothing origin' := by
  cases v with
  | null => exact absurd rfl h
  | flag b => exact fun e => nomatch e
  | whole n =>
    rw [Setting.ofJson]
    by_cases hn : Word.isSigned n = true
    · rw [if_pos hn]
      exact fun e => nomatch e
    · rw [if_neg hn]
      exact fun e => nomatch e
  | real x => exact fun e => nomatch e
  | text x => exact fun e => nomatch e
  | list vs =>
    rw [Setting.ofJson]
    exact fun e => nomatch e
  | object ms =>
    rw [Setting.ofJson]
    exact fun e => nomatch e

/-- A whole number that is none too great is taken as it is. -/
theorem Setting.toKind_whole {limit n : Nat} (h : n ≤ limit) (wanted : String)
    (origin : Option String) :
    (Setting.single (.whole n) origin).toKind (.whole limit wanted) = .ok n := by
  rw [Setting.toKind, Setting.toWhole, if_pos (Int.natCast_nonneg n)]
  exact if_pos h

namespace Kind.Written

theorem json_ne_null (h : Written k x s t) (hk : ∀ k', k ≠ .optional k') : k.json x ≠ .null := by
  cases h with
  | null => exact absurd rfl (hk _)
  | present => exact absurd rfl (hk _)
  | _ => exact fun e => nomatch e

/-- What a slot is given makes a setting that is converted to it again. -/
theorem toKind (h : Written k x s t) (origin : Option String) :
    (Setting.ofJson origin (k.json x)).toKind k = .ok x := by
  induction h with
  | text => rfl
  | path => rfl
  | flag => rfl
  | @whole limit n wanted t hlimit hsign =>
    have hsigned : Word.isSigned n = true := by
      rw [Word.isSigned, Bool.and_eq_true, decide_eq_true_iff, decide_eq_true_iff]
      omega
    show (Setting.ofJson origin (.whole n)).toKind (.whole limit wanted) = .ok n
    rw [Setting.ofJson, if_pos hsigned]
    exact Setting.toKind_whole hlimit wanted origin
  | @texts ms => exact Setting.toTexts_membersOfJson origin _
  | null => rfl
  | @present k x s t hk h ih =>
    have hne := Setting.ofJson_ne_nothing (h.json_ne_null hk) origin
    show (Setting.ofJson origin (k.json x)).toKind (.optional k) = .ok (some x)
    generalize Setting.ofJson origin (k.json x) = v at ih hne
    rw [Setting.toKind, ih]
    · rfl
    · exact fun origin' => hne origin'

theorem plain {x : Members String} (h : Written .texts x s t) : Members.Plain x := by
  cases h with
  | @texts ms s t hlower =>
    refine ⟨Members.sorted_extend Members.sorted_nil ms, fun m hm => ?_⟩
    rcases Members.mem_extend hm with hm | hm
    · cases hm
    · exact hlower m hm

end Kind.Written

end

end TelemetryGate
