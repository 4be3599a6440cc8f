import TelemetryGate.Proofs.Setting.Ordered
import TelemetryGate.Proofs.Toml.Lines

/-!
# What tables say as layers

What a table says as a layer of a way is what lies at the end of it.

* `Toml.at?`                   what lies at the end of a way through tables;
* `Toml.Plain`                 names in lower case, each once, and simple values;
* `Leaf.last?_ofToml`          what such a table says of a way;
* `Setting.at?_of_mem_leaves`  where its leaves lie;
* `Layer.leaves_membersOfToml` its leaves as a layer.
-/

namespace TelemetryGate

namespace Toml

/-- What lies at the end of a way. -/
def at? : List String → Toml → Option Toml
  | [], v => some v
  | name :: way, .table ms => (Members.find? name ms).bind (at? way)
  | _ :: _, _ => none

/-- In every table names are in lower case, each comes once, and values that are no tables are
simple. -/
inductive Plain : Toml → Prop
  | simple {v : Toml} (h : Simple v) : Plain v
  | table {ms : List (String × Toml)} (nodup : (ms.map (·.1)).Nodup)
    (lower : ∀ m ∈ ms, Text.lower m.1 = m.1) (all : ∀ m ∈ ms, Plain m.2) : Plain (.table ms)

variable {name : String} {way : List String} {ms more : List (String × Toml)} {u v : Toml}

theorem at?_simple (h : Simple v) : at? (name :: way) v = none := by
  cases h <;> rfl

/-- What lies in a table of simple values and of others is one of those, or lies in one of the
others. -/
theorem way_of_at? (hms : ∀ m ∈ ms, Simple m.2) (hne : ms ++ more ≠ [])
    (h : at? way (.table (ms ++ more)) = some u) (hu : Simple u ∨ u = .table []) :
    (∃ m ∈ ms, way = [m.1]) ∨ ∃ m ∈ more, ∃ rest, way = m.1 :: rest ∧ at? rest m.2 = some u := by
  cases way with
  | nil =>
    cases h
    rcases hu with hu | hu
    · cases hu
    · exact absurd (Toml.table.inj hu) hne
  | cons name way =>
    obtain ⟨v, hfind, hat⟩ := Option.bind_eq_some_iff.mp h
    rcases List.mem_append.mp (Members.mem_of_find? hfind) with hmem | hmem
    · cases way with
      | nil => exact .inl ⟨_, hmem, rfl⟩
      | cons n way =>
        rw [at?_simple (hms _ hmem)] at hat
        cases hat
    · exact .inr ⟨_, hmem, way, rfl, hat⟩

/-- Where all are simple, it is one of them. -/
theorem way_of_at?_simple (hms : ∀ m ∈ ms, Simple m.2) (hne : ms ≠ [])
    (h : at? way (.table ms) = some u) (hu : Simple u ∨ u = .table []) :
    ∃ m ∈ ms, way = [m.1] := by
  rw [← List.append_nil ms] at hne h
  rcases way_of_at? hms hne h hu with hway | ⟨_, hm, _⟩
  · exact hway
  · cases hm

end Toml

namespace Setting

variable {origin : Option String} {ms : List (String × Toml)} {v : Toml}

theorem find?_membersOfToml (origin : Option String) (name : String)
    (ms : List (String × Toml)) : Members.find? name (membersOfToml origin ms) =
      (Members.find? name ms).map (ofToml origin) := by
  induction ms with
  | nil => rfl
  | cons m ms ih =>
    obtain ⟨key, v⟩ := m
    rw [membersOfToml]
    by_cases hkey : name = key
    · subst hkey
      rw [Members.find?_insert_self, Members.find?_cons_self]
      rfl
    · rw [Members.find?_insert_of_ne hkey, Members.find?_cons_of_ne (Ne.symm hkey), ih]

theorem mem_membersOfToml {m : String × Setting} (h : m ∈ membersOfToml origin ms) :
    ∃ m' ∈ ms, m = (m'.1, ofToml origin m'.2) := by
  induction ms with
  | nil => cases h
  | cons n ms ih =>
    obtain ⟨key, v⟩ := n
    rw [membersOfToml] at h
    rcases Members.mem_insert h with rfl | h
    · exact ⟨_, List.mem_cons_self, rfl⟩
    · obtain ⟨m', hm', rfl⟩ := ih h
      exact ⟨m', List.mem_cons_of_mem _ hm', rfl⟩

theorem membersOfToml_ne_nil (origin : Option String) (h : ms ≠ []) :
    membersOfToml origin ms ≠ [] := by
  obtain ⟨⟨name, v⟩, ms, rfl⟩ := List.exists_cons_of_ne_nil h
  intro hnil
  have hfind := find?_membersOfToml origin name ((name, v) :: ms)
  rw [hnil, Members.find?_cons_self] at hfind
  cases hfind

theorem plain_membersOfToml (hlower : ∀ m ∈ ms, Text.lower m.1 = m.1) :
    Members.Plain (membersOfToml origin ms) := by
  refine ⟨(ordered_membersOfToml origin ms).1, fun m hm => ?_⟩
  obtain ⟨m', hm', rfl⟩ := mem_membersOfToml hm
  exact hlower m' hm'

theorem leaves_ofToml_simple (h : Toml.Simple v) :
    (ofToml origin v).leaves = [⟨[], ofToml origin v⟩] := by
  cases h <;> rfl

/-- A leaf of a table lies at the end of its way: a simple value, or an empty table. -/
theorem at?_of_mem_leaves (hv : v.Plain) {l : Leaf} (hl : l ∈ (ofToml origin v).leaves) :
    ∃ u, v.at? l.way = some u ∧ l.value = ofToml origin u ∧ (Toml.Simple u ∨ u = .table []) := by
  induction hv generalizing l with
  | @simple v hv =>
    rw [leaves_ofToml_simple hv, List.mem_singleton] at hl
    subst hl
    exact ⟨v, rfl, rfl, .inl hv⟩
  | @table ms hnodup hlower _ ih =>
    rw [ofToml] at hl
    rcases mem_leaves_table hl with ⟨hnil, rfl⟩ | ⟨m, hm, l', hl', rfl⟩
    · obtain rfl : ms = [] := by
        by_contra hne
        exact membersOfToml_ne_nil origin hne hnil
      exact ⟨.table [], rfl, rfl, .inr rfl⟩
    · obtain ⟨m', hm', rfl⟩ := mem_membersOfToml hm
      obtain ⟨u, hat, hvalue, hu⟩ := ih m' hm' hl'
      refine ⟨u, ?_, hvalue, hu⟩
      show Toml.at? (Text.lower m'.1 :: l'.way) (.table ms) = some u
      rw [hlower m' hm', Toml.at?, Members.find?_of_mem_nodup hnodup hm']
      exact hat

end Setting

/-- What a table says as a layer of a way is what lies at the end of it, if that is no table. -/
theorem Leaf.last?_ofToml {v : Toml} (hv : v.Plain) (origin : Option String) {way : List String}
    (hend : ∀ ms, v.at? way ≠ some (.table ms)) :
    last? way (Setting.ofToml origin v).leaves = (v.at? way).map (Setting.ofToml origin) := by
  induction way generalizing v with
  | nil =>
    cases hv with
    | simple hv =>
      rw [Setting.leaves_ofToml_simple hv, last?_singleton, if_pos rfl]
      rfl
    | @table ms _ _ _ => exact absurd rfl (hend ms)
  | cons name way ih =>
    cases hv with
    | simple hv =>
      rw [Toml.at?_simple hv, Setting.leaves_ofToml_simple hv, last?_singleton, if_neg (by simp)]
      rfl
    | @table ms hnodup hlower hall =>
      rw [Toml.at?] at hend ⊢
      rw [Setting.ofToml, last?_table (Setting.plain_membersOfToml hlower),
        Setting.find?_membersOfToml]
      cases hfind : Members.find? name ms with
      | none => rfl
      | some v =>
        rw [hfind] at hend
        exact ih (hall _ (Members.mem_of_find? hfind)) hend

/-- A table whose names are each a single step has the same leaves as a layer. -/
theorem Layer.leaves_membersOfToml {ms : List (String × Toml)} (hms : (Toml.table ms).Plain)
    (hne : ms ≠ []) (hsteps : ∀ m ∈ ms, way? m.1 = some [m.1]) (origin : Option String) :
    leaves (Setting.membersOfToml origin ms) = (Setting.ofToml origin (.table ms)).leaves := by
  cases hms with
  | simple h => cases h
  | table _ hlower _ =>
    obtain ⟨m, rest, hcons⟩ :=
      List.exists_cons_of_ne_nil (Setting.membersOfToml_ne_nil origin hne)
    have hsame : leaves (Setting.membersOfToml origin ms) =
        Setting.leavesOf (Setting.membersOfToml origin ms) := by
      refine leaves_eq fun m hm => ?_
      obtain ⟨m', hm', rfl⟩ := Setting.mem_membersOfToml hm
      show way? m'.1 = some [Text.lower m'.1]
      rw [hlower m' hm', hsteps m' hm']
    rw [hsame, Setting.ofToml, hcons, Setting.leaves]

end TelemetryGate
