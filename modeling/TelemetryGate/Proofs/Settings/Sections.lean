import TelemetryGate.Proofs.Settings.Load
import TelemetryGate.Proofs.Settings.Objects

/-!
# Sections that text may give

What the object of a section says of each field is what the section shows of it, and so it is where
there is no such object.

* `Field.shows_written`, `Field.fits`   a field that is given;
* `Form.Agrees`                         an object and the section that it comes to, or neither;
* `Form.Within`                         a section of the settings;
* `Form.Within.shows`                   its fields show what is said of them;
* `Form.Within.fits`                    settings can take what it is given;
* `levels_of_agrees`                    so it is with the levels of modules.
-/

namespace TelemetryGate

open Json Settings

/-! ### fields -/

section
variable {f : Field} {x : f.kind.El} {s t : List UInt8}

/-- The value of a field is a leaf by itself. -/
theorem Field.leaves (hf : f ∈ fields) {v : Setting} (h : v.toKind f.kind = .ok x) :
    v.leaves = [⟨[], v⟩] := by
  refine Setting.leaves_of_not_table ?_
  rintro ms origin rfl
  exact not_table hf ms origin x h

theorem Field.shows_written (hf : f ∈ fields) (h : f.kind.Written x s t) {settings : Settings}
    (hget : f.get settings = x) (origin : Option String) :
    f.Shows settings (Leaf.last? [] (Setting.ofJson origin (f.kind.json x)).leaves) := by
  have hkind := h.toKind origin
  rw [Field.leaves hf hkind, Leaf.last?_singleton, if_pos rfl]
  show _ = Except.ok (f.get settings)
  rw [hget]
  exact hkind

theorem Field.fits (hf : f ∈ fields) (h : f.kind.Written x s t) (origin : Option String) :
    ∀ l ∈ (Setting.ofJson origin (f.kind.json x)).leaves, (l.under f.way).Fits := by
  intro l hl
  have hkind := h.toKind origin
  rw [Field.leaves hf hkind, List.mem_singleton] at hl
  subst hl
  show Leaf.Fits ⟨f.way ++ [], _⟩
  rw [List.append_nil]
  exact .field hf hkind

end

/-! ### sections -/

/-- The names of all slots are in lower case. -/
def Form.LowerCase {κ : Type} {El : κ → Type} {ρ : Type} (form : Form κ El ρ) : Prop :=
  ∀ slot ∈ form.slots, Text.lower slot.name = slot.name

instance {κ : Type} {El : κ → Type} {ρ : Type} (form : Form κ El ρ) : Decidable form.LowerCase :=
  inferInstanceAs (Decidable (∀ slot ∈ form.slots, Text.lower slot.name = slot.name))

theorem Form.LowerCase.plain {κ : Type} {El V : κ → Type} {ρ : Type} {form : Form κ El ρ}
    (h : form.LowerCase) (toJson : (k : κ) → V k → Json) (es : List (form.Entry V)) :
    Members.Plain (form.json toJson es) := by
  refine ⟨sorted_json toJson es, fun m hm => ?_⟩
  obtain ⟨e, _, rfl⟩ := mem_json hm
  exact h e.slot e.mem

/-- The names that entries give, the object that they make and the section that they come to; or no
names, no object and the section as it is unless said otherwise. -/
inductive Form.Agrees {ρ : Type} (form : Form Kind Kind.El ρ) :
    List String → Option Json → ρ → Prop
  | given {es : List (form.Entry Kind.El)} (h : form.Sound Kind.Written es) :
    form.Agrees (es.map Entry.name) (some (.object (form.json Kind.json es))) (form.record es)
  | absent : form.Agrees [] none form.blank

/-- The form is that of a section of the settings, some of whose slots are fields. -/
structure Form.Within {ρ : Type} (form : Form Kind Kind.El ρ) (name : String)
    (part : Settings → ρ) (lenses : List form.Lens) : Prop where
  loose : form.Loose
  lower : form.LowerCase
  blank : part {} = form.blank
  isSection : [name] ∈ sections
  fields : ∀ f ∈ fieldsOf name part lenses, f ∈ Settings.fields

section
variable {ρ : Type} {form : Form Kind Kind.El ρ} {there : Option Json} {r : ρ}
  {names : List String}

namespace Form.Agrees

theorem of_given {es : List (form.Entry Kind.El)} {s t : List UInt8}
    (h : form.ObjectOf Kind.Written es s t)
    (hthere : there = some (.object (form.json Kind.json es))) (hr : r = form.record es) :
    form.Agrees (es.map Entry.name) there r := by
  rw [hthere, hr]
  exact .given h.sound

theorem of_absent (hthere : there = none) (hr : r = form.blank) : form.Agrees [] there r := by
  rw [hthere, hr]
  exact .absent

theorem get_eq (h : form.Agrees names there r) (l : form.Lens) (hno : l.slot.name ∉ names) :
    l.get r = l.get form.blank := by
  cases h with
  | given => exact get_fill_of_not_mem l hno
  | absent => rfl

end Form.Agrees

namespace Form.Within

variable {name : String} {part : Settings → ρ} {lenses : List form.Lens}
  {es : List (form.Entry Kind.El)} {s : Settings}

theorem shows_given (h : form.Within name part lenses) (hes : form.Sound Kind.Written es)
    (hpart : part s = form.record es) (origin : Option String) :
    ∀ f ∈ fieldsOf name part lenses, f.Shows s (Leaf.last? f.way.tail
      (Setting.ofJson origin (.object (form.json Kind.json es))).leaves) := by
  intro f hf
  have hfield := h.fields f hf
  obtain ⟨l, _, rfl⟩ := List.mem_map.mp hf
  show Field.Shows _ s (Leaf.last? [l.slot.name] _)
  rw [Leaf.last?_object (h.lower.plain Kind.json es)]
  rcases Form.lens_cases h.loose hes.nodup l (fun _ x => x) Kind.json with
    ⟨x, hx, hfind, hget⟩ | ⟨_, hfind, hget⟩
  · obtain ⟨u, v, hwritten⟩ := hes.written _ hx
    have hshown : l.get (part s) = x := by
      rw [hpart]
      exact hget
    rw [hfind]
    exact Field.shows_written hfield hwritten hshown origin
  · rw [hfind]
    show l.get (part s) = l.get (part {})
    rw [hpart, h.blank, Form.record, hget]

/-- **The fields of a section show what is said of them, be it given or not.** -/
theorem shows (h : form.Within name part lenses) (hagrees : form.Agrees names there (part s))
    (origin : Option String) : ∀ f ∈ fieldsOf name part lenses, f.Shows s
      (there.bind fun v => Leaf.last? f.way.tail (Setting.ofJson origin v).leaves) := by
  generalize hpart : part s = r at hagrees
  cases hagrees with
  | given hes => exact h.shows_given hes hpart origin
  | absent =>
    intro f hf
    obtain ⟨l, _, rfl⟩ := List.mem_map.mp hf
    show l.get (part s) = l.get (part {})
    rw [hpart, h.blank]

/-- Settings can take what a section is given; `more` are the slots that are no fields. -/
theorem fits (h : form.Within name part lenses) (more : List (Slot Kind Kind.El ρ))
    (hslots : form.slots = lenses.map (·.slot) ++ more) (hes : form.Sound Kind.Written es)
    (origin : Option String)
    (hmore : ∀ e ∈ es, e.slot ∈ more → ∀ l ∈ (Setting.ofJson origin
      (e.slot.kind.json e.value)).leaves, (l.under [name, e.name]).Fits) :
    ∀ l ∈ (Setting.ofJson origin (.object (form.json Kind.json es))).leaves,
      (l.under [name]).Fits := by
  intro l hl
  rw [Setting.ofJson] at hl
  rcases Setting.mem_leaves_table hl with ⟨_, rfl⟩ | ⟨m, hm, l', hl', rfl⟩
  · exact .empty h.isSection origin
  · rw [Setting.membersOfJson_eq] at hm
    obtain ⟨m', hm', rfl⟩ := List.mem_map.mp hm
    obtain ⟨e, he, rfl⟩ := Form.mem_json hm'
    have hname : Text.lower e.name = e.name := h.lower e.slot e.mem
    show Leaf.Fits ((l'.under [Text.lower e.name]).under [name])
    rw [hname]
    have hslot := e.mem
    rw [hslots] at hslot
    rcases List.mem_append.mp hslot with hslot | hslot
    · obtain ⟨l, hl, hlens⟩ := List.mem_map.mp hslot
      have hfield := h.fields _ (List.mem_map_of_mem hl)
      obtain ⟨u, v, hwritten⟩ := hes.written e he
      obtain ⟨slot, hmem, x⟩ := e
      dsimp only at hlens
      subst hlens
      exact Field.fits hfield hwritten origin l' hl'
    · exact hmore e he hslot l' hl'

end Form.Within

end

/-! ### the sections there are -/

namespace Settings

/-- The first of the fields. -/
def diagnosticsField : Field := ⟨["enable_diagnostics"], .optional .flag, diagnosticsLens.get⟩

/-- The second of them. -/
def bodyCapField : Field := ⟨["request_body_max_size_bytes"], .word, bodyCapLens.get⟩

theorem mem_fields {f : Field} : f ∈ fields ↔
    f = diagnosticsField ∨ f = bodyCapField ∨
    f ∈ fieldsOf "telemetry" sink SinkSettings.lenses ∨
    f ∈ fieldsOf "host" host HostSettings.lenses ∨
    f ∈ fieldsOf "logging" logging LogSettings.lenses := by
  rw [fields_eq]
  simp only [List.mem_append, List.mem_cons, List.not_mem_nil, or_false, or_assoc]
  exact Iff.rfl

theorem within_sink : SinkSettings.form.Within "telemetry" sink SinkSettings.lenses where
  loose := SinkSettings.form_loose
  lower := by decide
  blank := rfl
  isSection := by decide
  fields := fun _ hf => mem_fields.mpr (.inr (.inr (.inl hf)))

theorem within_host : HostSettings.form.Within "host" host HostSettings.lenses where
  loose := HostSettings.form_loose
  lower := by decide
  blank := rfl
  isSection := by decide
  fields := fun _ hf => mem_fields.mpr (.inr (.inr (.inr (.inl hf))))

theorem within_logging : LogSettings.form.Within "logging" logging LogSettings.lenses where
  loose := LogSettings.form_loose
  lower := by decide
  blank := rfl
  isSection := by decide
  fields := fun _ hf => mem_fields.mpr (.inr (.inr (.inr (.inr hf))))

/-! ### levels of modules -/

theorem levels_cases {es : List (LogSettings.form.Entry Kind.El)}
    (h : LogSettings.form.Sound Kind.Written es) :
    (∃ x : Members String, Members.Plain x ∧
      Members.find? "modules" (LogSettings.form.json Kind.json es) =
        some (.object (x.map fun m => (m.1, .text m.2))) ∧
      (LogSettings.form.record es).modules = x) ∨
    Members.find? "modules" (LogSettings.form.json Kind.json es) = none ∧
      (LogSettings.form.record es).modules = [] := by
  rcases Form.lens_cases LogSettings.form_loose h.nodup LogSettings.levels (fun _ x => x)
    Kind.json with ⟨x, hx, hfind, hget⟩ | ⟨_, hfind, hget⟩
  · obtain ⟨u, v, hwritten⟩ := h.written _ hx
    exact .inl ⟨x, Kind.Written.plain hwritten, hfind, hget⟩
  · exact .inr ⟨hfind, hget⟩

/-- The levels of a section are in order, and each is what is said of it. -/
theorem levels_of_agrees {s : LogSettings} {names : List String} {there : Option Json}
    (h : LogSettings.form.Agrees names there s) (origin : Option String) :
    Members.Sorted s.modules ∧ ∀ name, s.Shows name (there.bind fun v =>
      Leaf.last? ["modules", name] (Setting.ofJson origin v).leaves) := by
  cases h with
  | absent => exact ⟨Members.sorted_nil, fun name => rfl⟩
  | @given es h =>
    have hlast : ∀ name, Leaf.last? ["modules", name]
        (Setting.ofJson origin (.object (LogSettings.form.json Kind.json es))).leaves =
          (Members.find? "modules" (LogSettings.form.json Kind.json es)).bind
            fun v => Leaf.last? [name] (Setting.ofJson origin v).leaves :=
      fun name => Leaf.last?_object (within_logging.lower.plain Kind.json es) origin
    simp only [Option.bind_some, hlast]
    rcases levels_cases h with ⟨x, hplain, hfind, hmodules⟩ | ⟨hfind, hmodules⟩
    · rw [hfind, hmodules]
      refine ⟨hplain.sorted, fun name => ?_⟩
      rw [Option.bind_some, Leaf.last?_object (hplain.map _), Members.find?_map]
      have hshown := congrArg (Members.find? name) hmodules
      cases hlevel : Members.find? name x with
      | none => exact hshown.trans hlevel
      | some level => exact ⟨level, rfl, hshown.trans hlevel⟩
    · rw [hfind, hmodules]
      exact ⟨Members.sorted_nil, fun name => congrArg (Members.find? name) hmodules⟩

theorem fits_levels {x : Members String} (h : Members.Plain x) (origin : Option String) :
    ∀ l ∈ (Setting.ofJson origin (.object (x.map fun m => (m.1, .text m.2)))).leaves,
      (l.under levelsWay).Fits := by
  intro l hl
  rw [Setting.ofJson] at hl
  rcases Setting.mem_leaves_table hl with ⟨_, rfl⟩ | ⟨m, hm, l', hl', rfl⟩
  · have hlevels : levelsWay ∈ sections := by decide
    exact .empty hlevels origin
  · rw [Setting.membersOfJson_eq, List.map_map] at hm
    obtain ⟨m', hm', rfl⟩ := List.mem_map.mp hm
    obtain rfl := List.mem_singleton.mp hl'
    show Leaf.Fits ⟨levelsWay ++ [Text.lower m'.1], _⟩
    rw [h.lower m' hm']
    exact .level m'.1 rfl

end Settings

end TelemetryGate
