import TelemetryGate.Proofs.Setting.Record
import TelemetryGate.Settings.Load

/-!
# The fields of settings

Settings are fields at the ends of ways, and levels of modules under their names.

* `Field`, `Settings.fields`     the ways, what is wanted at the end of each, what settings show;
* `Settings.sections`            the ways to tables;
* `Leaf.Fits`                    a leaf that settings can take, or that is none of their business;
* `Leaf.Fits.at_field`, …        what such a leaf makes of what stands somewhere;
* `SinkSettings.lenses`, …       the fields as slots of forms.
-/

namespace TelemetryGate

/-- A value of the settings: the way to it, what is wanted of it, and what settings show of it. -/
structure Field where
  way : List String
  kind : Kind
  get : Settings → kind.El

namespace Settings

def fields : List Field :=
  [⟨["enable_diagnostics"], .optional .flag, fun s => s.diagnostics⟩,
    ⟨["request_body_max_size_bytes"], .word, fun s => s.bodyCap⟩,
    ⟨["telemetry", "write_key"], .text, fun s => s.sink.writeKey⟩,
    ⟨["telemetry", "dataplane_url"], .text, fun s => s.sink.dataplaneUrl⟩,
    ⟨["telemetry", "build_hash"], .text, fun s => s.sink.buildHash⟩,
    ⟨["telemetry", "plugin_version"], .text, fun s => s.sink.pluginVersion⟩,
    ⟨["telemetry", "queue_capacity"], .size, fun s => s.sink.queueCapacity⟩,
    ⟨["telemetry", "request_timeout_ms"], .word, fun s => s.sink.requestTimeoutMs⟩,
    ⟨["host", "diagnostic_id"], .text, fun s => s.host.diagnosticId⟩,
    ⟨["host", "server_version"], .text, fun s => s.host.serverVersion⟩,
    ⟨["logging", "enabled"], .flag, fun s => s.logging.enabled⟩,
    ⟨["logging", "level"], .text, fun s => s.logging.level⟩,
    ⟨["logging", "format"], .text, fun s => s.logging.format⟩,
    ⟨["logging", "output"], .text, fun s => s.logging.output⟩,
    ⟨["logging", "file"], .optional .path, fun s => s.logging.file⟩,
    ⟨["logging", "color"], .flag, fun s => s.logging.color⟩]

/-- The way to the levels of modules. -/
def levelsWay : List String := ["logging", "modules"]

/-- The ways to tables. -/
def sections : List (List String) := [["telemetry"], ["host"], ["logging"], levelsWay]

end Settings

/-! ### ways -/

/-- Neither way leads on from the other. -/
def Apart (way way' : List String) : Prop := ¬ way <+: way' ∧ ¬ way' <+: way

instance (way way' : List String) : Decidable (Apart way way') :=
  inferInstanceAs (Decidable (¬ way <+: way' ∧ ¬ way' <+: way))

section
variable {way path : List String} {there : Standing} {v : Setting}

theorem Apart.symm (h : Apart way path) : Apart path way := ⟨h.2, h.1⟩

theorem Apart.append (h : Apart way path) (more : List String) : Apart way (path ++ more) := by
  refine ⟨fun hpre => ?_, fun hpre => h.2 ((List.prefix_append path more).trans hpre)⟩
  rcases List.prefix_or_prefix_of_prefix hpre (List.prefix_append path more) with hw | hp
  · exact h.1 hw
  · exact h.2 hp

theorem Apart.ne (h : Apart way path) : path ≠ way := by
  rintro rfl
  exact h.1 (List.prefix_refl path)

namespace Leaf

theorem touchAt_apart (v : Setting) (h : Apart way path) (there : Standing) :
    touchAt v way path there = there := by
  induction way generalizing path with
  | nil => exact absurd (List.nil_prefix) h.1
  | cons n way ih =>
    cases path with
    | nil => exact absurd (List.nil_prefix) h.2
    | cons m path =>
      rw [touchAt]
      by_cases hn : n = m
      · subst hn
        rw [if_pos rfl]
        refine ih ⟨fun hpre => h.1 ?_, fun hpre => h.2 ?_⟩
        · exact List.cons_prefix_cons.mpr ⟨rfl, hpre⟩
        · exact List.cons_prefix_cons.mpr ⟨rfl, hpre⟩
      · rw [if_neg hn]

theorem touchAt_self (v : Setting) (way : List String) (there : Standing) :
    touchAt v way way there = replace v there := by
  induction way with
  | nil => rw [touchAt]
  | cons n way ih => rw [touchAt, if_pos rfl, ih]

/-- What leads on from a way makes a table of what stands there. -/
theorem touchAt_further (v : Setting) (way : List String) (n : String) (path : List String)
    (there : Standing) : touchAt v way (way ++ n :: path) there = .table := by
  induction way with
  | nil => rw [List.nil_append, touchAt]
  | cons m way ih => rw [List.cons_append, touchAt, if_pos rfl, ih]

/-- An empty table changes nothing of what lies beyond it. -/
theorem touchAt_empty (origin : Option String) (h : path ≠ way) (hpre : ¬ way <+: path)
    (there : Standing) : touchAt (.table [] origin) way path there = there := by
  induction way generalizing path with
  | nil => exact absurd List.nil_prefix hpre
  | cons n way ih =>
    cases path with
    | nil => rw [touchAt, cover]
    | cons m path =>
      rw [touchAt]
      by_cases hn : n = m
      · subst hn
        rw [if_pos rfl]
        refine ih (fun heq => h (by rw [heq])) fun hp => hpre ?_
        exact List.cons_prefix_cons.mpr ⟨rfl, hp⟩
      · rw [if_neg hn]

/-! ### leaves that fit -/

/-- A leaf that settings can take: a value of a field, the level of a module, or an empty table in
the place of one. What lies elsewhere is none of their business. -/
inductive Fits : Leaf → Prop
  | field {f : Field} (hf : f ∈ Settings.fields) {v : Setting} {x : f.kind.El}
    (h : v.toKind f.kind = .ok x) : Fits ⟨f.way, v⟩
  | level (name : String) {v : Setting} {x : String} (h : v.toText = .ok x) :
    Fits ⟨Settings.levelsWay ++ [name], v⟩
  | empty {way : List String} (h : way ∈ Settings.sections) (origin : Option String) :
    Fits ⟨way, .table [] origin⟩
  | other {way : List String} (v : Setting)
    (h : ∀ known ∈ Settings.fields.map Field.way ++ Settings.sections, Apart way known) :
    Fits ⟨way, v⟩

open Settings in
/-- Whether a leaf fits can be told. -/
theorem fits_iff (l : Leaf) : l.Fits ↔
    (∃ f ∈ fields, f.way = l.way ∧ (l.value.toKind f.kind).isOk) ∨
    (l.way.dropLast = levelsWay ∧ l.value.toText.isOk) ∨
    (l.way ∈ sections ∧ l.value matches .table [] _) ∨
    ∀ known ∈ fields.map Field.way ++ sections, Apart l.way known := by
  have hisOk : ∀ {ε α : Type} {x : Except ε α}, x.isOk = true ↔ ∃ a, x = .ok a := by
    intro ε α x
    cases x with
    | error e => exact ⟨fun h => (nomatch h), fun ⟨_, h⟩ => nomatch h⟩
    | ok a => exact ⟨fun _ => ⟨a, rfl⟩, fun _ => rfl⟩
  constructor
  · intro h
    cases h with
    | @field f hf v x h => exact .inl ⟨f, hf, rfl, hisOk.mpr ⟨x, h⟩⟩
    | @level name v x h => exact .inr (.inl ⟨List.dropLast_concat, hisOk.mpr ⟨x, h⟩⟩)
    | empty h origin => exact .inr (.inr (.inl ⟨h, rfl⟩))
    | other v h => exact .inr (.inr (.inr h))
  · obtain ⟨way, v⟩ := l
    rintro (⟨f, hf, rfl, h⟩ | ⟨hway, h⟩ | ⟨h, hempty⟩ | h)
    · obtain ⟨x, hx⟩ := hisOk.mp h
      exact .field hf hx
    · obtain ⟨x, hx⟩ := hisOk.mp h
      dsimp only at hway
      have hne : way ≠ [] := by
        rintro rfl
        cases hway
      rw [← List.dropLast_append_getLast hne, hway]
      exact .level _ hx
    · cases v with
      | single v origin => cases hempty
      | list vs origin => cases hempty
      | table ms origin =>
        cases ms with
        | nil => exact .empty h origin
        | cons m ms => cases hempty
    · exact .other v h

instance : DecidablePred Fits := fun l => decidable_of_iff _ (fits_iff l).symm
end Leaf

end

/-! ### what they make of what stands somewhere -/

namespace Settings

theorem fields_apart : ∀ f ∈ fields, ∀ g ∈ fields, g.way = f.way ∨ Apart f.way g.way := by decide

theorem fields_apart_levels : ∀ f ∈ fields, Apart f.way levelsWay := by decide

/-- A field lies beyond a section or elsewhere. -/
theorem sections_fields : ∀ s ∈ sections, ∀ f ∈ fields,
    s ≠ f.way ∧ ¬ f.way <+: s ∧ (Apart s f.way ∨ s <+: f.way) := by decide

theorem fields_way_nodup : (fields.map Field.way).Nodup := by decide

/-- What is wanted of a field is never a table. -/
theorem not_table {f : Field} (hf : f ∈ fields) (ms : List (String × Setting))
    (origin : Option String) (x : f.kind.El) : (Setting.table ms origin).toKind f.kind ≠ .ok x := by
  simp only [fields, List.mem_cons, List.not_mem_nil, or_false] at hf
  rcases hf with rfl | rfl | rfl | rfl | rfl | rfl | rfl | rfl | rfl | rfl | rfl | rfl | rfl | rfl |
    rfl | rfl
  all_goals exact fun h => nomatch h

end Settings

/-- No value stands there. -/
def Standing.Open (there : Standing) : Prop := ∀ v, there ≠ .value v

namespace Leaf

open Settings

theorem replace_of_toText {v : Setting} {x : String} (h : v.toText = .ok x) (there : Standing) :
    replace v there = .value v := by
  cases v with
  | single v origin => rfl
  | list vs origin => rfl
  | table ms origin => cases h

theorem replace_of_field {f : Field} (hf : f ∈ fields) {v : Setting} {x : f.kind.El}
    (h : v.toKind f.kind = .ok x) (there : Standing) : replace v there = .value v := by
  cases v with
  | single v origin => rfl
  | list vs origin => rfl
  | table ms origin => exact absurd h (not_table hf ms origin x)

variable {l : Leaf} {f : Field}

namespace Fits

/-- At a field stands what the last leaf says that is one of its values. -/
theorem at_field (hl : l.Fits) (hf : f ∈ fields) (there : Standing) :
    l.touch f.way there = if l.way = f.way then .value l.value else there := by
  cases hl with
  | @field g hg v x h =>
    show touchAt v f.way g.way there = if g.way = f.way then .value v else there
    rcases fields_apart f hf g hg with heq | hapart
    · rw [if_pos heq, heq, touchAt_self, replace_of_field hg h]
    · rw [if_neg hapart.ne, touchAt_apart v hapart]
  | @level name v x h =>
    have hapart := (fields_apart_levels f hf).append [name]
    show touchAt v f.way (levelsWay ++ [name]) there = if levelsWay ++ [name] = f.way then _ else _
    rw [if_neg hapart.ne, touchAt_apart v hapart]
  | @empty s hs origin =>
    obtain ⟨hne, hpre, _⟩ := sections_fields s hs f hf
    show touchAt (.table [] origin) f.way s there = if s = f.way then _ else _
    rw [if_neg hne, touchAt_empty origin hne hpre]
  | @other way v h =>
    have hapart := (h f.way (List.mem_append_left _ (List.mem_map_of_mem hf))).symm
    show touchAt v f.way way there = if way = f.way then _ else _
    rw [if_neg hapart.ne, touchAt_apart v hapart]

/-- At the level of a module stands what the last leaf says that is one. -/
theorem at_level (hl : l.Fits) (name : String) (there : Standing) :
    l.touch (levelsWay ++ [name]) there =
      if l.way = levelsWay ++ [name] then .value l.value else there := by
  cases hl with
  | @field g hg v x h =>
    have hapart := ((fields_apart_levels g hg).append [name]).symm
    show touchAt v (levelsWay ++ [name]) g.way there = if g.way = _ then _ else _
    rw [if_neg hapart.ne, touchAt_apart v hapart]
  | @level name' v x h =>
    show touchAt v (levelsWay ++ [name]) (levelsWay ++ [name']) there =
      if levelsWay ++ [name'] = levelsWay ++ [name] then .value v else there
    by_cases hname : name' = name
    · rw [if_pos (by rw [hname]), hname, touchAt_self, replace_of_toText h]
    · have hne : levelsWay ++ [name'] ≠ levelsWay ++ [name] := fun e =>
        hname (List.singleton_inj.mp (List.append_cancel_left e))
      rw [if_neg hne]
      show (if name = name' then _ else there) = there
      rw [if_neg (Ne.symm hname)]
  | @empty s hs origin =>
    have hshort : s.length ≤ 2 := by
      have hall : ∀ s ∈ sections, s.length ≤ 2 := by decide
      exact hall s hs
    have hpre : ¬ levelsWay ++ [name] <+: s := by
      intro hpre
      have hlong : 3 ≤ s.length := hpre.length_le
      omega
    have hne : s ≠ levelsWay ++ [name] := by
      rintro rfl
      exact hpre (List.prefix_refl _)
    show touchAt (.table [] origin) (levelsWay ++ [name]) s there = if s = _ then _ else _
    rw [if_neg hne, touchAt_empty origin hne hpre]
  | @other way v h =>
    have hmem : levelsWay ∈ fields.map Field.way ++ sections :=
      List.mem_append_right _ (by decide)
    have hapart := ((h levelsWay hmem).append [name]).symm
    show touchAt v (levelsWay ++ [name]) way there = if way = _ then _ else _
    rw [if_neg hapart.ne, touchAt_apart v hapart]

/-- At a section no value comes to stand. -/
theorem at_section (hl : l.Fits) {s : List String} (hs : s ∈ sections) {there : Standing}
    (h : there.Open) : (l.touch s there).Open := by
  have htable : Standing.table.Open := fun v e => nomatch e
  have hfurther : ∀ (v : Setting) {path : List String}, s <+: path → s ≠ path →
      touchAt v s path there = .table := by
    rintro v _ ⟨more, rfl⟩ hne
    cases more with
    | nil => exact absurd (List.append_nil s).symm hne
    | cons n more => exact touchAt_further v s n more there
  cases hl with
  | @field g hg v x hv =>
    obtain ⟨hne, _, hapart | hpre⟩ := sections_fields s hs g hg
    · show (touchAt v s g.way there).Open
      rwa [touchAt_apart v hapart]
    · show (touchAt v s g.way there).Open
      rwa [hfurther v hpre hne]
  | @level name v x hv =>
    show (touchAt v s (levelsWay ++ [name]) there).Open
    have hcases : ∀ s ∈ sections, Apart s levelsWay ∨ s <+: levelsWay := by decide
    rcases hcases s hs with hapart | hpre
    · rwa [touchAt_apart v (hapart.append [name])]
    · have hlength := hpre.length_le
      rw [hfurther v (hpre.trans (List.prefix_append _ _))]
      · exact htable
      · rintro rfl
        rw [List.length_append, List.length_singleton] at hlength
        omega
  | @empty s' hs' origin =>
    show (touchAt (.table [] origin) s s' there).Open
    by_cases heq : s' = s
    · subst heq
      rw [touchAt_self]
      cases there with
      | nothing => exact htable
      | table => exact htable
      | value v => exact absurd rfl (h v)
    · by_cases hpre : s <+: s'
      · rw [hfurther _ hpre (Ne.symm heq)]
        exact htable
      · rwa [touchAt_empty origin heq hpre]
  | @other way v hv =>
    have hapart := (hv s (List.mem_append_right _ hs)).symm
    show (touchAt v s way there).Open
    rwa [touchAt_apart v hapart]

/-- A leaf at a field can be taken by it. -/
theorem converts (hl : l.Fits) (hf : f ∈ fields) (hway : l.way = f.way) :
    ∃ x, l.value.toKind f.kind = .ok x := by
  cases hl with
  | @field g hg v x h =>
    cases List.inj_on_of_nodup_map fields_way_nodup hg hf hway
    exact ⟨x, h⟩
  | @level name v x h => exact absurd hway ((fields_apart_levels f hf).append [name]).ne
  | @empty s hs origin => exact absurd hway (sections_fields s hs f hf).1
  | @other way v h =>
    exact absurd hway (h f.way (List.mem_append_left _ (List.mem_map_of_mem hf))).symm.ne

/-- A leaf at a module is a text. -/
theorem toText_ok (hl : l.Fits) {name : String} (hway : l.way = levelsWay ++ [name]) :
    ∃ x, l.value.toText = .ok x := by
  cases hl with
  | @field g hg v x h =>
    exact absurd hway ((fields_apart_levels g hg).append [name]).symm.ne
  | @level name' v x h => exact ⟨x, h⟩
  | @empty s hs origin =>
    have hall : ∀ s ∈ sections, s.length ≤ 2 := by decide
    have hlong : s.length = 3 := congrArg List.length hway
    have hshort := hall s hs
    omega
  | @other way v h =>
    have hmem : levelsWay ∈ fields.map Field.way ++ sections :=
      List.mem_append_right _ (by decide)
    exact absurd hway ((h levelsWay hmem).append [name]).symm.ne

theorem way_ne_nil (hl : l.Fits) : l.way ≠ [] := by
  have hnil : ∀ known ∈ fields.map Field.way ++ sections, known ≠ [] := by decide
  cases hl with
  | @field g hg v x h =>
    exact hnil g.way (List.mem_append_left _ (List.mem_map_of_mem hg))
  | @level name v x h => exact fun e => nomatch e
  | @empty s hs origin => exact hnil s (List.mem_append_right _ hs)
  | @other way v h =>
    rintro rfl
    exact (h levelsWay (List.mem_append_right _ (by decide))).1 List.nil_prefix

end Fits

/-! ### the last leaf -/

/-- The value of the last leaf at the end of a way. -/
def last? (way : List String) (ls : List Leaf) : Option Setting :=
  (ls.filter (·.way = way)).getLast?.map Leaf.value

variable {way : List String} {ls ls' : List Leaf}

theorem last?_append (way : List String) (ls ls' : List Leaf) :
    last? way (ls ++ ls') = (last? way ls').or (last? way ls) := by
  unfold last?
  rw [List.filter_append, List.getLast?_append, Option.map_or]

theorem last?_singleton (way : List String) (l : Leaf) :
    last? way [l] = if l.way = way then some l.value else none := by
  rw [last?, List.filter_singleton]
  by_cases hway : l.way = way
  · rw [if_pos hway, decide_eq_true hway]
    rfl
  · rw [if_neg hway, decide_eq_false hway]
    rfl

theorem mem_of_last? {v : Setting} (h : last? way ls = some v) : (⟨way, v⟩ : Leaf) ∈ ls := by
  obtain ⟨l, hl, rfl⟩ := Option.map_eq_some_iff.mp h
  obtain ⟨hmem, hway⟩ := List.mem_filter.mp (List.mem_of_getLast? hl)
  rw [← of_decide_eq_true hway]
  exact hmem

/-- Where every leaf puts its value or nothing, the last one decides. -/
theorem foldl_touch (h : ∀ l ∈ ls, ∀ there,
      l.touch way there = if l.way = way then .value l.value else there) (there : Standing) :
    ls.foldl (touch way) there = (last? way ls).elim there .value := by
  induction ls generalizing there with
  | nil => rfl
  | cons l ls ih =>
    obtain ⟨hl, hrest⟩ := List.forall_mem_cons.mp h
    have happend : last? way (l :: ls) = (last? way ls).or (last? way [l]) :=
      last?_append way [l] ls
    rw [List.foldl_cons, hl, ih hrest, happend, last?_singleton]
    cases last? way ls with
    | some v => rfl
    | none =>
      by_cases hway : l.way = way
      · rw [if_pos hway, if_pos hway]
        rfl
      · rw [if_neg hway, if_neg hway]
        rfl

theorem foldl_open {s : List String} (hs : s ∈ sections) (h : ∀ l ∈ ls, l.Fits)
    {there : Standing} (hopen : there.Open) : (ls.foldl (touch s) there).Open := by
  induction ls generalizing there with
  | nil => exact hopen
  | cons l ls ih =>
    obtain ⟨hl, hrest⟩ := List.forall_mem_cons.mp h
    exact ih hrest (hl.at_section hs hopen)

end Leaf

end TelemetryGate
