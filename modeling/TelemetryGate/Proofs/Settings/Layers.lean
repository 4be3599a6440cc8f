import TelemetryGate.Proofs.Settings.Fields

/-!
# Settings from layers

Every field of settings that are loaded is what the last layer says that says anything of it, and so
is the level of every module.

* `Stands`                     a setting that some leaves make of nothing;
* `Stands.at?_field`, …        what lies at the end of the way to a field;
* `SinkSettings.lenses`, …     the fields as slots of forms;
* `Stands.settings_ok`         such a setting makes settings, field by field;
* `FromLayers`, `layered`      so do layers, one over another.
-/

namespace TelemetryGate

/-! ### a setting that leaves make -/

/-- The setting is what leaves that fit make of nothing. -/
structure Stands (root : Setting) (ls : List Leaf) : Prop where
  fits : ∀ l ∈ ls, l.Fits
  tidy : root.Tidy
  standing : ∀ way,
    root.standing way = ls.foldl (Leaf.touch way) ((Setting.table [] none).standing way)

namespace Stands

open Settings

variable {root : Setting} {ls : List Leaf} {f : Field} {s : List String}

theorem standing_root (h : Stands root ls) : (root.standing []).Open := by
  rw [h.standing]
  cases ls with
  | nil => exact fun v e => nomatch e
  | cons l ls =>
    rw [Leaf.foldl_nil (List.cons_ne_nil _ _) fun l hl => (h.fits l hl).way_ne_nil]
    exact fun v e => nomatch e

theorem standing_of_ne (h : Stands root ls) {way : List String} (hway : way ≠ []) :
    root.standing way = ls.foldl (Leaf.touch way) .nothing := by
  obtain ⟨name, way, rfl⟩ := List.exists_cons_of_ne_nil hway
  exact h.standing (name :: way)

/-- Where the last leaf decides, its value lies. -/
theorem at?_last (h : Stands root ls) {way : List String} (hway : way ≠ [])
    (htouch : ∀ l ∈ ls, ∀ there,
      l.touch way there = if l.way = way then .value l.value else there) :
    root.at? way = Leaf.last? way ls := by
  have hstanding := h.standing_of_ne hway
  rw [Leaf.foldl_touch htouch] at hstanding
  unfold Setting.standing at hstanding
  cases hlast : Leaf.last? way ls with
  | none =>
    rw [hlast] at hstanding
    cases hat : root.at? way with
    | none => rfl
    | some v =>
      rw [hat] at hstanding
      cases v <;> cases hstanding
  | some v =>
    rw [hlast] at hstanding
    cases hat : root.at? way with
    | none =>
      rw [hat] at hstanding
      cases hstanding
    | some u =>
      rw [hat] at hstanding
      cases u with
      | single u origin => exact congrArg some (Standing.value.inj hstanding)
      | list us origin => exact congrArg some (Standing.value.inj hstanding)
      | table ms origin => cases hstanding

theorem converts (h : Stands root ls) (hf : f ∈ fields) {v : Setting}
    (hv : Leaf.last? f.way ls = some v) : ∃ x, v.toKind f.kind = .ok x :=
  (h.fits _ (Leaf.mem_of_last? hv)).converts hf rfl

theorem toText_ok (h : Stands root ls) {name : String} {v : Setting}
    (hv : Leaf.last? (levelsWay ++ [name]) ls = some v) : ∃ x, v.toText = .ok x :=
  (h.fits _ (Leaf.mem_of_last? hv)).toText_ok rfl

theorem at?_field (h : Stands root ls) (hf : f ∈ fields) :
    root.at? f.way = Leaf.last? f.way ls := by
  have hway : f.way ≠ [] := by
    have hall : ∀ f ∈ fields, f.way ≠ [] := by decide
    exact hall f hf
  exact h.at?_last hway fun l hl => (h.fits l hl).at_field hf

theorem at?_level (h : Stands root ls) (name : String) :
    root.at? (levelsWay ++ [name]) = Leaf.last? (levelsWay ++ [name]) ls :=
  h.at?_last (List.cons_ne_nil _ _) fun l hl => (h.fits l hl).at_level name

theorem standing_section (h : Stands root ls) (hs : s ∈ sections) : (root.standing s).Open := by
  have hway : s ≠ [] := by
    have hall : ∀ s ∈ sections, s ≠ [] := by decide
    exact hall s hs
  rw [h.standing_of_ne hway]
  exact Leaf.foldl_open hs h.fits fun v e => nomatch e

end Stands

/-! ### the fields as slots -/

theorem SinkSettings.form_loose : SinkSettings.form.Loose :=
  ⟨by decide, by simp [form], by simp [form]⟩

theorem HostSettings.form_loose : HostSettings.form.Loose :=
  ⟨by decide, by simp [form], by simp [form]⟩

theorem LogSettings.form_loose : LogSettings.form.Loose :=
  ⟨by decide, by simp [form], by simp [form]⟩

theorem Settings.form_loose : Settings.form.Loose :=
  ⟨by decide, by simp [form], by simp [form]⟩

def SinkSettings.lenses : List SinkSettings.form.Lens :=
  [⟨form.slots[0], writeKey, by simp [form], fun _ _ => rfl, by simp [form]⟩,
    ⟨form.slots[1], dataplaneUrl, by simp [form], fun _ _ => rfl, by simp [form]⟩,
    ⟨form.slots[2], buildHash, by simp [form], fun _ _ => rfl, by simp [form]⟩,
    ⟨form.slots[3], pluginVersion, by simp [form], fun _ _ => rfl, by simp [form]⟩,
    ⟨form.slots[4], queueCapacity, by simp [form], fun _ _ => rfl, by simp [form, Kind.size]⟩,
    ⟨form.slots[5], requestTimeoutMs, by simp [form], fun _ _ => rfl, by simp [form, Kind.word]⟩]

def HostSettings.lenses : List HostSettings.form.Lens :=
  [⟨form.slots[0], diagnosticId, by simp [form], fun _ _ => rfl, by simp [form]⟩,
    ⟨form.slots[1], serverVersion, by simp [form], fun _ _ => rfl, by simp [form]⟩]

namespace LogSettings

def lenses : List LogSettings.form.Lens :=
  [⟨form.slots[0], enabled, by simp [form], fun _ _ => rfl, by simp [form]⟩,
    ⟨form.slots[1], level, by simp [form], fun _ _ => rfl, by simp [form]⟩,
    ⟨form.slots[2], format, by simp [form], fun _ _ => rfl, by simp [form]⟩,
    ⟨form.slots[3], output, by simp [form], fun _ _ => rfl, by simp [form]⟩,
    ⟨form.slots[4], file, by simp [form], fun _ _ => rfl, by simp [form]⟩,
    ⟨form.slots[5], color, by simp [form], fun _ _ => rfl, by simp [form]⟩]

def levels : LogSettings.form.Lens :=
  ⟨form.slots[6], modules, by simp [form], fun _ _ => rfl, by simp [form]⟩

end LogSettings

namespace Settings

def diagnosticsLens : form.Lens :=
  ⟨form.slots[0], diagnostics, by simp [form], fun _ _ => rfl, by simp [form]⟩

def bodyCapLens : form.Lens :=
  ⟨form.slots[1], bodyCap, by simp [form], fun _ _ => rfl, by simp [form, Kind.word]⟩

def sinkLens : form.Lens := ⟨form.slots[2], sink, by simp [form], fun _ _ => rfl, by simp [form]⟩

def hostLens : form.Lens := ⟨form.slots[3], host, by simp [form], fun _ _ => rfl, by simp [form]⟩

def loggingLens : form.Lens :=
  ⟨form.slots[4], logging, by simp [form], fun _ _ => rfl, by simp [form]⟩

/-- The fields of a section. -/
def fieldsOf {ρ : Type} {form : Form Kind Kind.El ρ} (name : String) (part : Settings → ρ)
    (lenses : List form.Lens) : List Field :=
  lenses.map fun l => ⟨[name, l.slot.name], l.slot.kind, fun s => l.get (part s)⟩

theorem fields_eq : fields =
    [⟨["enable_diagnostics"], .optional .flag, diagnosticsLens.get⟩,
      ⟨["request_body_max_size_bytes"], .word, bodyCapLens.get⟩]
      ++ fieldsOf "telemetry" sink SinkSettings.lenses
      ++ fieldsOf "host" host HostSettings.lenses
      ++ fieldsOf "logging" logging LogSettings.lenses := rfl

end Settings

/-! ### settings -/

/-- The field is what a value is converted to, or what it is unless said otherwise. -/
def Field.Shows (f : Field) (s : Settings) : Option Setting → Prop
  | some v => v.toKind f.kind = .ok (f.get s)
  | none => f.get s = f.get {}

theorem Field.shows_of {f : Field} {s : Settings} {at? : Option Setting}
    (h : (∀ v, at? = some v → v.toKind f.kind = .ok (f.get s)) ∧
      (at? = none → f.get s = f.get {})) : f.Shows s at? := by
  cases at? with
  | none => exact h.2 rfl
  | some v => exact h.1 v rfl

/-- The level of a module is the text of a value, or there is none. -/
def LogSettings.Shows (s : LogSettings) (name : String) : Option Setting → Prop
  | some v => ∃ level, v.toText = .ok level ∧ Members.find? name s.modules = some level
  | none => Members.find? name s.modules = none

namespace Stands

open Settings

variable {root : Setting} {ls : List Leaf}

/-- The levels of modules, each the last one that is said of the module. -/
theorem levels_ok (h : Stands root ls) :
    ∃ texts, (∀ v, root.at? levelsWay = some v → v.toKind .texts = .ok texts) ∧
      (root.at? levelsWay = none → texts = []) ∧ Members.Sorted texts ∧
      ∀ (s : LogSettings) (name : String), s.modules = texts →
        s.Shows name (Leaf.last? (levelsWay ++ [name]) ls) := by
  have hat : ∀ name, (root.at? levelsWay).bind (Setting.at? [name]) =
      Leaf.last? (levelsWay ++ [name]) ls := by
    intro name
    rw [← Setting.at?_append, h.at?_level]
  rcases Setting.at?_of_standing (h.standing_section (s := levelsWay) (by decide)) with
    hnone | ⟨ms, origin, hsome⟩
  · refine ⟨[], fun v hv => ?_, fun _ => rfl, Members.sorted_nil, fun s name hs => ?_⟩
    · rw [hnone] at hv
      cases hv
    · rw [← hat, hnone]
      show Members.find? name s.modules = none
      rw [hs]
      rfl
  · have hlast : ∀ name, Members.find? name ms = Leaf.last? (levelsWay ++ [name]) ls := by
      intro name
      rw [← hat, hsome]
      show _ = (Members.find? name ms).bind some
      exact (Option.bind_fun_some _).symm
    have hsorted : Members.Sorted ms := (h.tidy.at? hsome).members.1
    have hall : ∀ m ∈ ms, ∃ x, m.2.toText = .ok x := by
      intro m hm
      have hfind := Members.find?_of_mem hsorted hm
      rw [hlast] at hfind
      exact h.toText_ok hfind
    obtain ⟨texts, htexts, hfind⟩ := Setting.toTexts_ok hall
    refine ⟨texts, fun v hv => ?_, fun hno => ?_, Setting.sorted_toTexts hsorted htexts,
      fun s name hs => ?_⟩
    · rw [hsome] at hv
      cases hv
      exact htexts
    · rw [hsome] at hno
      cases hno
    · rw [← hlast]
      subst hs
      cases hv : Members.find? name ms with
      | none => exact (hfind name).2 hv
      | some v => exact (hfind name).1 v hv

/-- A section makes its part of the settings, if what is wanted beside the fields can be had. -/
theorem section_ok (h : Stands root ls) {ρ : Type} {form : Form Kind Kind.El ρ}
    (hform : form.Loose) {name : String} (hs : [name] ∈ sections) (part : Settings → ρ)
    {lenses : List form.Lens} (more : List (Slot Kind Kind.El ρ))
    (hslots : form.slots = lenses.map (·.slot) ++ more)
    (hfields : ∀ f ∈ fieldsOf name part lenses, f ∈ fields)
    (hmore : ∀ slot ∈ more, ∀ v, root.at? [name, slot.name] = some v →
      ∃ x, v.toKind slot.kind = .ok x)
    (hblank : part {} = form.blank) :
    ∃ r, (∀ t, root.at? [name] = some t → Setting.toRecord Setting.toKind form t = .ok r) ∧
      (root.at? [name] = none → r = form.blank) ∧
      (∀ l : form.Lens,
        (∀ v, root.at? [name, l.slot.name] = some v → v.toKind l.slot.kind = .ok (l.get r)) ∧
        (root.at? [name, l.slot.name] = none → l.get r = l.get form.blank)) ∧
      ∀ s : Settings, part s = r → ∀ f ∈ fieldsOf name part lenses,
        f.Shows s (Leaf.last? f.way ls) := by
  have hconvert : ∀ slot ∈ form.slots, ∀ v, root.at? ([name] ++ [slot.name]) = some v →
      ∃ x, v.toKind slot.kind = .ok x := by
    intro slot hslot v hv
    rw [hslots] at hslot
    rcases List.mem_append.mp hslot with hslot | hslot
    · obtain ⟨l, hl, rfl⟩ := List.mem_map.mp hslot
      have hf := hfields _ (List.mem_map_of_mem hl)
      exact h.converts hf ((h.at?_field hf).symm.trans hv)
    · exact hmore slot hslot v hv
  obtain ⟨r, hr, hnone, hlens⟩ :=
    Setting.record_ok hform h.tidy (h.standing_section hs) hconvert
  refine ⟨r, hr, hnone, hlens, fun s hpart f hf => ?_⟩
  have hat := h.at?_field (hfields f hf)
  obtain ⟨l, _, rfl⟩ := List.mem_map.mp hf
  rw [← hat]
  refine Field.shows_of ?_
  dsimp only
  rw [hpart, hblank]
  exact hlens l

/-- What is made of the same in two ways is the same. -/
theorem part_eq {α : Type} {at? : Option Setting} {convert : Setting → Except SettingFault α}
    {a b blank : α} (ha : (∀ v, at? = some v → convert v = .ok a) ∧ (at? = none → a = blank))
    (hb : (∀ v, at? = some v → convert v = .ok b) ∧ (at? = none → b = blank)) : a = b := by
  cases at? with
  | none => rw [ha.2 rfl, hb.2 rfl]
  | some v => exact Except.ok.inj ((ha.1 v rfl).symm.trans (hb.1 v rfl))

/-- A setting that leaves make of nothing makes settings, field by field. -/
theorem settings_ok (h : Stands root ls) :
    ∃ s, Setting.toRecord ofPart form root = .ok s ∧
      (∀ f ∈ fields, f.Shows s (Leaf.last? f.way ls)) ∧ Members.Sorted s.logging.modules ∧
      ∀ name, s.logging.Shows name (Leaf.last? (levelsWay ++ [name]) ls) := by
  have hfields : ∀ f, f ∈ fieldsOf "telemetry" sink SinkSettings.lenses
      ++ fieldsOf "host" host HostSettings.lenses
      ++ fieldsOf "logging" logging LogSettings.lenses → f ∈ fields := by
    intro f hf
    rw [List.append_assoc] at hf
    rw [fields_eq, List.append_assoc, List.append_assoc]
    exact List.mem_append_right _ hf
  -- the sections, each for itself
  obtain ⟨texts, htexts, htextsNone, hsorted, hlevels⟩ := h.levels_ok
  obtain ⟨sink', hsink, hsinkNone, _, hsinkShows⟩ :=
    h.section_ok SinkSettings.form_loose (by decide) sink [] rfl
      (fun f hf => hfields f (List.mem_append_left _ (List.mem_append_left _ hf)))
      (fun slot hslot => nomatch hslot) rfl
  obtain ⟨host', hhost, hhostNone, _, hhostShows⟩ :=
    h.section_ok HostSettings.form_loose (by decide) host [] rfl
      (fun f hf => hfields f (List.mem_append_left _ (List.mem_append_right _ hf)))
      (fun slot hslot => nomatch hslot) rfl
  obtain ⟨logging', hlogging, hloggingNone, hloggingLens, hloggingShows⟩ :=
    h.section_ok LogSettings.form_loose (by decide) logging [LogSettings.levels.slot] rfl
      (fun f hf => hfields f (List.mem_append_right _ hf))
      (fun slot hslot v hv => by
        rw [List.mem_singleton.mp hslot] at hv ⊢
        exact ⟨texts, htexts v hv⟩) rfl
  have hmodules : logging'.modules = texts :=
    part_eq (hloggingLens LogSettings.levels) ⟨htexts, htextsNone⟩
  -- the whole
  let diagnosticsField : Field := ⟨["enable_diagnostics"], .optional .flag, fun s => s.diagnostics⟩
  let bodyCapField : Field := ⟨["request_body_max_size_bytes"], .word, fun s => s.bodyCap⟩
  have hdiagnostics : diagnosticsField ∈ fields := List.mem_cons_self
  have hbodyCap : bodyCapField ∈ fields := List.mem_cons_of_mem _ List.mem_cons_self
  have hconvert : ∀ slot ∈ form.slots, ∀ v, root.at? ([] ++ [slot.name]) = some v →
      ∃ x, ofPart slot.kind v = .ok x := by
    intro slot hslot v hv
    simp only [form, List.mem_cons, List.not_mem_nil, or_false] at hslot
    rcases hslot with rfl | rfl | rfl | rfl | rfl
    · exact h.converts hdiagnostics ((h.at?_field hdiagnostics).symm.trans hv)
    · exact h.converts hbodyCap ((h.at?_field hbodyCap).symm.trans hv)
    · exact ⟨sink', hsink v hv⟩
    · exact ⟨host', hhost v hv⟩
    · exact ⟨logging', hlogging v hv⟩
  obtain ⟨s, hs, _, hlens⟩ := Setting.record_ok form_loose h.tidy h.standing_root hconvert
  have hsinkEq : s.sink = sink' := part_eq (hlens sinkLens) ⟨hsink, hsinkNone⟩
  have hhostEq : s.host = host' := part_eq (hlens hostLens) ⟨hhost, hhostNone⟩
  have hloggingEq : s.logging = logging' :=
    part_eq (hlens loggingLens) ⟨hlogging, hloggingNone⟩
  refine ⟨s, hs root rfl, fun f hf => ?_, ?_, fun name => hlevels s.logging name ?_⟩
  · rw [fields_eq] at hf
    rcases List.mem_append.mp hf with hf | hf
    · rcases List.mem_append.mp hf with hf | hf
      · rcases List.mem_append.mp hf with hf | hf
        · have hat := h.at?_field (fields_eq ▸ List.mem_append_left _ (List.mem_append_left _
            (List.mem_append_left _ hf)))
          rw [← hat]
          rcases List.mem_pair.mp hf with rfl | rfl
          · exact Field.shows_of (hlens diagnosticsLens)
          · exact Field.shows_of (hlens bodyCapLens)
        · exact hsinkShows s hsinkEq f hf
      · exact hhostShows s hhostEq f hf
    · exact hloggingShows s hloggingEq f hf
  · rw [hloggingEq, hmodules]
    exact hsorted
  · rw [hloggingEq, hmodules]

end Stands

end TelemetryGate
