import TelemetryGate.Proofs.Setting.Tables
import TelemetryGate.Proofs.Settings.Agreement
import TelemetryGate.Settings.Shown

/-!
# Settings as a table

Settings whose numbers fit a signed word are shown as a table, and as a layer that table comes to
the same settings again.

* `Settings.Signed`            settings whose numbers fit a signed word;
* `Settings.members`           the table that they are shown as, modules in any order;
* `Settings.regular_members`   it is one that can be read back;
* `Settings.shows_members`     at the end of the way to a field is what the field holds;
* `Settings.ofLayers_members`  the settings that its layer makes.
-/

namespace TelemetryGate

open Toml

/-! ### tables with the names of a form -/

namespace Form

variable {κ : Type} {El : κ → Type} {ρ : Type} {form : Form κ El ρ} {ms : List (String × Toml)}

/-- The names of some slots, each once at most and in their order. -/
def Names (form : Form κ El ρ) (ms : List (String × Toml)) : Prop :=
  (ms.map (·.1)).Sublist (form.slots.map (·.name))

theorem Names.nodup (h : form.Names ms) (hform : form.Loose) : (ms.map (·.1)).Nodup :=
  hform.nodup.sublist h

theorem Names.exists_slot (h : form.Names ms) {m : String × Toml} (hm : m ∈ ms) :
    ∃ slot ∈ form.slots, slot.name = m.1 :=
  List.mem_map.mp (h.subset (List.mem_map_of_mem hm))

theorem Names.plain (h : form.Names ms) (hform : form.Loose) (hlower : form.LowerCase)
    (hall : ∀ m ∈ ms, m.2.Plain) : (Toml.table ms).Plain := by
  refine .table (h.nodup hform) (fun m hm => ?_) hall
  obtain ⟨slot, hslot, hname⟩ := h.exists_slot hm
  rw [← hname]
  exact hlower slot hslot

end Form

/-! ### the table of settings -/

def SinkSettings.members (s : SinkSettings) : List (String × Toml) :=
  [("write_key", .text s.writeKey), ("dataplane_url", .text s.dataplaneUrl),
    ("build_hash", .text s.buildHash), ("plugin_version", .text s.pluginVersion),
    ("queue_capacity", .whole s.queueCapacity), ("request_timeout_ms", .whole s.requestTimeoutMs)]

def HostSettings.members (s : HostSettings) : List (String × Toml) :=
  [("diagnostic_id", .text s.diagnosticId), ("server_version", .text s.serverVersion)]

namespace LogSettings

/-- The levels of modules, in the order of a traversal. -/
def levelMembers (t : Members.Traversal String) (s : LogSettings) : List (String × Toml) :=
  (t.visit s.modules).map fun m => (m.1, .text m.2)

/-- What comes before them. -/
def entries (s : LogSettings) : List (String × Toml) :=
  [("enabled", .flag s.enabled), ("level", .text s.level), ("format", .text s.format),
    ("output", .text s.output)] ++ (s.file.map fun f => ("file", Toml.text f)).toList ++
    [("color", .flag s.color)]

def members (t : Members.Traversal String) (s : LogSettings) : List (String × Toml) :=
  s.entries ++ [("modules", .table (s.levelMembers t))]

end LogSettings

namespace Settings

/-- What comes before the sections. -/
def entries (c : Settings) : List (String × Toml) :=
  (c.diagnostics.map fun b => ("enable_diagnostics", Toml.flag b)).toList ++
    [("request_body_max_size_bytes", .whole c.bodyCap)]

def members (t : Members.Traversal String) (c : Settings) : List (String × Toml) :=
  c.entries ++ [("telemetry", .table c.sink.members), ("host", .table c.host.members),
    ("logging", .table (c.logging.members t))]

theorem members_ne_nil {c : Settings} {t : Members.Traversal String} : c.members t ≠ [] :=
  List.append_ne_nil_of_right_ne_nil _ (List.cons_ne_nil _ _)

/-- Settings whose numbers fit a signed word. -/
def Signed (c : Settings) : Prop :=
  ∀ n ∈ [c.bodyCap, c.sink.queueCapacity, c.sink.requestTimeoutMs], Word.isSigned n = true

instance (c : Settings) : Decidable c.Signed :=
  inferInstanceAs (Decidable (∀ n ∈ [c.bodyCap, c.sink.queueCapacity, c.sink.requestTimeoutMs],
    Word.isSigned n = true))

variable {c : Settings} {t : Members.Traversal String}

theorem Signed.bodyCap (h : c.Signed) : Word.isSigned c.bodyCap = true := h _ (by simp)

theorem Signed.queueCapacity (h : c.Signed) : Word.isSigned c.sink.queueCapacity = true :=
  h _ (by simp)

theorem Signed.requestTimeoutMs (h : c.Signed) : Word.isSigned c.sink.requestTimeoutMs = true :=
  h _ (by simp)

theorem toToml_logging : c.logging.toToml t = .table (c.logging.members t) := by
  unfold LogSettings.toToml LogSettings.members LogSettings.entries
  rw [List.append_assoc _ [_] [_]]
  rfl

/-- Such settings are shown as their table. -/
theorem toToml?_eq (h : c.Signed) : c.toToml? t = some (c.members t) := by
  have hnumber : ∀ n : Nat, Word.isSigned n = true → Toml.ofNat? n = some (.whole n) :=
    fun n hn => if_pos hn
  have hsink : c.sink.toToml? = some (.table c.sink.members) := by
    unfold SinkSettings.toToml?
    rw [hnumber _ h.queueCapacity, hnumber _ h.requestTimeoutMs]
    rfl
  unfold toToml?
  rw [hnumber _ h.bodyCap, hsink, toToml_logging, members, entries, List.append_assoc]
  rfl

/-! ### it can be read back -/

theorem simple_sink (h : c.Signed) : ∀ m ∈ c.sink.members, Simple m.2 := by
  simp only [SinkSettings.members, List.forall_mem_cons]
  exact ⟨.text _, .text _, .text _, .text _, .whole _ h.queueCapacity, .whole _ h.requestTimeoutMs,
    fun _ hm => nomatch hm⟩

theorem simple_host : ∀ m ∈ c.host.members, Simple m.2 := by
  simp only [HostSettings.members, List.forall_mem_cons]
  exact ⟨.text _, .text _, fun _ hm => nomatch hm⟩

theorem simple_levels : ∀ m ∈ c.logging.levelMembers t, Simple m.2 := by
  intro m hm
  obtain ⟨m', _, rfl⟩ := List.mem_map.mp hm
  exact .text _

theorem simple_logging : ∀ m ∈ c.logging.entries, Simple m.2 := by
  have hfile : ∀ m ∈ (c.logging.file.map fun f => ("file", Toml.text f)).toList, Simple m.2 := by
    intro m hm
    obtain ⟨f, _, rfl⟩ := Option.map_eq_some_iff.mp (Option.mem_toList.mp hm)
    exact .text _
  unfold LogSettings.entries
  simp only [List.forall_mem_append, List.forall_mem_cons]
  exact ⟨⟨⟨.flag _, .text _, .text _, .text _, fun _ hm => nomatch hm⟩, hfile⟩, .flag _,
    fun _ hm => nomatch hm⟩

theorem simple_entries (h : c.Signed) : ∀ m ∈ c.entries, Simple m.2 := by
  refine List.forall_mem_append.mpr ⟨fun m hm => ?_, fun m hm => ?_⟩
  · obtain ⟨b, _, rfl⟩ := Option.map_eq_some_iff.mp (Option.mem_toList.mp hm)
    exact .flag _
  · rw [List.mem_singleton.mp hm]
    exact .whole _ h.bodyCap

theorem names_sink : SinkSettings.form.Names c.sink.members := List.Sublist.refl _

theorem names_host : HostSettings.form.Names c.host.members := List.Sublist.refl _

theorem names_entries :
    (c.logging.entries.map (·.1)).Sublist (LogSettings.lenses.map (·.slot.name)) := by
  unfold LogSettings.entries
  cases c.logging.file with
  | none =>
    show ["enabled", "level", "format", "output", "color"].Sublist
      ["enabled", "level", "format", "output", "file", "color"]
    decide
  | some f => exact List.Sublist.refl _

theorem names_logging : LogSettings.form.Names (c.logging.members t) := by
  unfold Form.Names LogSettings.members
  rw [List.map_append]
  exact names_entries.append (List.Sublist.refl ["modules"])

theorem names_members : form.Names (c.members t) := by
  unfold Form.Names members entries
  cases c.diagnostics with
  | none => exact List.sublist_cons_self _ _
  | some b => exact List.Sublist.refl _

theorem nodup_levels (h : Members.Sorted c.logging.modules) :
    ((c.logging.levelMembers t).map (·.1)).Nodup := by
  unfold LogSettings.levelMembers
  rw [List.map_map]
  exact t.nodup_visit h

theorem regular_members (hsigned : c.Signed) (hsorted : Members.Sorted c.logging.modules) :
    Regular 2 (c.members t) := by
  have hnodup : ((c.members t).map (·.1)).Nodup := names_members.nodup form_loose
  have hlogging : Regular 1 (c.logging.members t) :=
    .append simple_logging (names_logging.nodup LogSettings.form_loose)
      (.table (regular_simple simple_levels (nodup_levels hsorted)) List.not_mem_nil
        (fun _ hm => nomatch hm) .nil)
  have hsections : Regular 2 [("telemetry", .table c.sink.members),
      ("host", .table c.host.members), ("logging", .table (c.logging.members t))] := by
    refine .table (regular_simple (simple_sink hsigned) (names_sink.nodup SinkSettings.form_loose))
      (by simp) (by simp [isTable]) ?_
    refine .table (regular_simple simple_host (names_host.nodup HostSettings.form_loose))
      (by simp) (by simp [isTable]) ?_
    exact .table hlogging List.not_mem_nil (fun _ hm => nomatch hm) .nil
  exact .append (simple_entries hsigned) hnodup hsections

/-! ### its names are in lower case -/

theorem plain_members (hsigned : c.Signed) (hsorted : Members.Sorted c.logging.modules)
    (hlower : ∀ m ∈ c.logging.modules, Text.lower m.1 = m.1) :
    (Toml.table (c.members t)).Plain := by
  have hlevels : (Toml.table (c.logging.levelMembers t)).Plain := by
    refine .table (nodup_levels hsorted) (fun m hm => ?_) fun m hm => .simple (simple_levels m hm)
    obtain ⟨m', hm', rfl⟩ := List.mem_map.mp hm
    exact hlower m' (t.mem_visit.mp hm')
  have hlogging : (Toml.table (c.logging.members t)).Plain := by
    refine names_logging.plain LogSettings.form_loose within_logging.lower ?_
    refine List.forall_mem_append.mpr ⟨fun m hm => .simple (simple_logging m hm), fun m hm => ?_⟩
    rw [List.mem_singleton.mp hm]
    exact hlevels
  have hsink : (Toml.table c.sink.members).Plain :=
    names_sink.plain SinkSettings.form_loose within_sink.lower
      fun m hm => .simple (simple_sink hsigned m hm)
  have hhost : (Toml.table c.host.members).Plain :=
    names_host.plain HostSettings.form_loose within_host.lower
      fun m hm => .simple (simple_host m hm)
  refine names_members.plain form_loose form_lowerCase ?_
  refine List.forall_mem_append.mpr ⟨fun m hm => .simple (simple_entries hsigned m hm), ?_⟩
  simp only [List.forall_mem_cons]
  exact ⟨hsink, hhost, hlogging, fun _ hm => nomatch hm⟩

/-! ### what it says -/

theorem at?_telemetry (way : List String) :
    at? ("telemetry" :: way) (.table (c.members t)) = at? way (.table c.sink.members) := by
  unfold members entries
  cases c.diagnostics <;> rfl

theorem at?_host (way : List String) :
    at? ("host" :: way) (.table (c.members t)) = at? way (.table c.host.members) := by
  unfold members entries
  cases c.diagnostics <;> rfl

theorem at?_logging (way : List String) :
    at? ("logging" :: way) (.table (c.members t)) = at? way (.table (c.logging.members t)) := by
  unfold members entries
  cases c.diagnostics <;> rfl

theorem at?_modules (way : List String) : at? ("modules" :: way) (.table (c.logging.members t)) =
    at? way (.table (c.logging.levelMembers t)) := by
  unfold LogSettings.members LogSettings.entries
  cases c.logging.file <;> rfl

theorem le_most {n : Nat} (h : Word.isSigned n = true) : n ≤ Word.most := by
  rw [Word.isSigned, Bool.and_eq_true, decide_eq_true_iff, decide_eq_true_iff] at h
  have hlimit : Word.signLimit ≤ Word.most := by decide
  omega

/-- At the end of the way to a field is what the field holds. -/
theorem shows_members (h : c.Signed) (origin : Option String) : ∀ f ∈ fields,
    f.Shows c ((at? f.way (.table (c.members t))).map (Setting.ofToml origin)) := by
  intro f hf
  rcases mem_fields.mp hf with rfl | rfl | hf | hf | hf
  · show diagnosticsField.Shows c ((at? ["enable_diagnostics"] (.table (c.members t))).map _)
    obtain ⟨diagnostics, _⟩ := c
    cases diagnostics <;> rfl
  · show bodyCapField.Shows c ((at? ["request_body_max_size_bytes"] (.table (c.members t))).map _)
    have hat : at? ["request_body_max_size_bytes"] (.table (c.members t)) =
        some (.whole c.bodyCap) := by
      unfold members entries
      cases c.diagnostics <;> rfl
    rw [hat]
    exact Setting.toKind_whole (le_most h.bodyCap) _ origin
  · obtain ⟨l, hl, rfl⟩ := List.mem_map.mp hf
    dsimp only
    rw [at?_telemetry]
    simp only [SinkSettings.lenses, List.mem_cons, List.not_mem_nil, or_false] at hl
    rcases hl with rfl | rfl | rfl | rfl | rfl | rfl
    · rfl
    · rfl
    · rfl
    · rfl
    · exact Setting.toKind_whole (le_most h.queueCapacity) _ origin
    · exact Setting.toKind_whole (le_most h.requestTimeoutMs) _ origin
  · obtain ⟨l, hl, rfl⟩ := List.mem_map.mp hf
    dsimp only
    rw [at?_host]
    simp only [HostSettings.lenses, List.mem_cons, List.not_mem_nil, or_false] at hl
    rcases hl with rfl | rfl <;> rfl
  · obtain ⟨l, hl, rfl⟩ := List.mem_map.mp hf
    dsimp only
    rw [at?_logging]
    simp only [LogSettings.lenses, List.mem_cons, List.not_mem_nil, or_false] at hl
    obtain ⟨_, _, _, _, ⟨_, _, _, _, file, _⟩⟩ := c
    cases file with
    | none => rcases hl with rfl | rfl | rfl | rfl | rfl | rfl <;> rfl
    | some file => rcases hl with rfl | rfl | rfl | rfl | rfl | rfl <;> rfl

/-- At the end of the way to a module is its level. -/
theorem shows_level (h : Members.Sorted c.logging.modules) (name : String)
    (origin : Option String) : c.logging.Shows name
    ((at? (levelsWay ++ [name]) (.table (c.members t))).map (Setting.ofToml origin)) := by
  have hlevel : at? [name] (.table (c.logging.levelMembers t)) =
      (Members.find? name c.logging.modules).map .text := by
    unfold LogSettings.levelMembers
    rw [at?, Members.find?_map, t.find?_visit h]
    cases Members.find? name c.logging.modules <;> rfl
  show c.logging.Shows name ((at? ["logging", "modules", name] (.table (c.members t))).map _)
  rw [at?_logging, at?_modules, hlevel]
  cases hfind : Members.find? name c.logging.modules with
  | none => exact hfind
  | some level => exact ⟨level, rfl, hfind⟩

/-- The names of some fields of a section lead to fields. -/
theorem exists_field {ρ : Type} {form' : Form Kind Kind.El ρ} {name : String} {part : Settings → ρ}
    {lenses : List form'.Lens} (hform : form'.Within name part lenses) {ms : List (String × Toml)}
    (hnames : (ms.map (·.1)).Sublist (lenses.map (·.slot.name))) {m : String × Toml}
    (hm : m ∈ ms) : ∃ f ∈ fields, f.way = [name, m.1] := by
  obtain ⟨l, hl, hname⟩ := List.mem_map.mp (hnames.subset (List.mem_map_of_mem hm))
  rw [← hname]
  exact ⟨_, hform.fields _ (List.mem_map_of_mem hl), rfl⟩

theorem way_of_at?_logging {way : List String} {u : Toml}
    (hat : at? way (.table (c.logging.members t)) = some u) (hu : Simple u ∨ u = .table []) :
    (∃ m ∈ c.logging.entries, way = [m.1]) ∨ (∃ name, way = ["modules", name]) ∨
      way = ["modules"] ∧ u = .table [] := by
  have hne : c.logging.members t ≠ [] := List.append_ne_nil_of_right_ne_nil _ (List.cons_ne_nil _ _)
  rcases way_of_at? simple_logging hne hat hu with hway | ⟨m, hm, rest, rfl, hrest⟩
  · exact .inl hway
  obtain rfl := List.mem_singleton.mp hm
  by_cases hlevels : c.logging.levelMembers t = []
  · dsimp only at hrest
    rw [hlevels] at hrest
    cases rest with
    | nil =>
      cases hrest
      exact .inr (.inr ⟨rfl, rfl⟩)
    | cons name rest => cases hrest
  · obtain ⟨m, _, rfl⟩ := way_of_at?_simple simple_levels hlevels hrest hu
    exact .inr (.inl ⟨m.1, rfl⟩)

/-- Nothing lies elsewhere: what there is is that of a field or of a module, or a table of no
modules. -/
theorem way_of_at?_members (h : c.Signed) {way : List String} {u : Toml}
    (hat : at? way (.table (c.members t)) = some u) (hu : Simple u ∨ u = .table []) :
    (∃ f ∈ fields, f.way = way) ∨ (∃ name, way = levelsWay ++ [name]) ∨
      way = levelsWay ∧ u = .table [] := by
  rcases way_of_at? (simple_entries h) members_ne_nil hat hu with
    ⟨m, hm, rfl⟩ | ⟨m, hm, rest, rfl, hrest⟩
  · rcases List.mem_append.mp hm with hm | hm
    · obtain ⟨b, _, rfl⟩ := Option.map_eq_some_iff.mp (Option.mem_toList.mp hm)
      exact .inl ⟨diagnosticsField, mem_fields.mpr (.inl rfl), rfl⟩
    · obtain rfl := List.mem_singleton.mp hm
      exact .inl ⟨bodyCapField, mem_fields.mpr (.inr (.inl rfl)), rfl⟩
  · simp only [List.mem_cons, List.not_mem_nil, or_false] at hm
    rcases hm with rfl | rfl | rfl
    · obtain ⟨m, hm, rfl⟩ := way_of_at?_simple (simple_sink h) (List.cons_ne_nil _ _) hrest hu
      exact .inl (exists_field within_sink (List.Sublist.refl _) hm)
    · obtain ⟨m, hm, rfl⟩ := way_of_at?_simple simple_host (List.cons_ne_nil _ _) hrest hu
      exact .inl (exists_field within_host (List.Sublist.refl _) hm)
    · rcases way_of_at?_logging hrest hu with ⟨m, hm, rfl⟩ | ⟨name, rfl⟩ | ⟨rfl, rfl⟩
      · exact .inl (exists_field within_logging names_entries hm)
      · exact .inr (.inl ⟨name, rfl⟩)
      · exact .inr (.inr ⟨rfl, rfl⟩)

/-! ### its layer -/

section
variable (hsigned : c.Signed) (hsorted : Members.Sorted c.logging.modules)
  (hlower : ∀ m ∈ c.logging.modules, Text.lower m.1 = m.1)
include hsigned hsorted hlower

theorem leaves_members (origin : Option String) :
    Layer.leaves (Setting.membersOfToml origin (c.members t)) =
      (Setting.ofToml origin (.table (c.members t))).leaves := by
  refine Layer.leaves_membersOfToml (plain_members hsigned hsorted hlower) members_ne_nil
    (fun m hm => ?_) origin
  obtain ⟨slot, hslot, hname⟩ := names_members.exists_slot hm
  rw [← hname, way?_slot slot hslot, form_lowerCase slot hslot]

theorem fits_members (origin : Option String) :
    Layer.Fits (Setting.membersOfToml origin (c.members t)) := by
  intro l hl
  rw [leaves_members hsigned hsorted hlower] at hl
  obtain ⟨way, v⟩ := l
  obtain ⟨u, hat, rfl, hu⟩ :=
    Setting.at?_of_mem_leaves (plain_members hsigned hsorted hlower) hl
  rcases way_of_at?_members hsigned hat hu with ⟨f, hf, rfl⟩ | ⟨name, rfl⟩ | ⟨rfl, rfl⟩
  · have hshows := shows_members (t := t) hsigned origin f hf
    rw [hat] at hshows
    exact .field hf hshows
  · have hshows := shows_level (t := t) hsorted name origin
    rw [hat] at hshows
    obtain ⟨level, hlevel, _⟩ := hshows
    exact .level name hlevel
  · have hlevels : levelsWay ∈ sections := by decide
    exact .empty hlevels origin

theorem fromLayers_members (origin : Option String) :
    c.FromLayers [Setting.membersOfToml origin (c.members t)] := by
  have hgiven : ∀ way, (∀ ms, at? way (.table (c.members t)) ≠ some (.table ms)) →
      Layer.highest? way [Setting.membersOfToml origin (c.members t)] =
        (at? way (.table (c.members t))).map (Setting.ofToml origin) := by
    intro way hend
    rw [highest?_singleton, Layer.given?, leaves_members hsigned hsorted hlower,
      Leaf.last?_ofToml (plain_members hsigned hsorted hlower) origin hend]
  refine ⟨fun f hf => ?_, fun name => ?_, hsorted⟩
  · have hshows := shows_members (t := t) hsigned origin f hf
    rw [hgiven f.way fun ms hat => ?_]
    · exact hshows
    · rw [hat] at hshows
      exact not_table hf _ _ _ hshows
  · have hshows := shows_level (t := t) hsorted name origin
    rw [hgiven _ fun ms hat => ?_]
    · exact hshows
    · rw [hat] at hshows
      obtain ⟨level, hlevel, _⟩ := hshows
      cases hlevel

/-- **As a layer the table comes to the settings that it shows.** -/
theorem ofLayers_members (origin : Option String) :
    ofLayers [Setting.membersOfToml origin (c.members t)] = .ok c := by
  obtain ⟨s, hs, hfrom⟩ := ofLayers_ok (List.forall_mem_singleton.mpr
    (fits_members hsigned hsorted hlower origin))
  rw [hs, hfrom.eq (fromLayers_members hsigned hsorted hlower origin)]

end

end Settings

end TelemetryGate
