import TelemetryGate.Proofs.Settings.Layers

/-!
# Settings that are loaded

Every field of settings that are loaded is what the highest layer says that says anything of it, and
so is the level of every module: variables before the file that is named, that before the file of
the user, and what settings are unless said otherwise last.

* `Layer.given?`, `Layer.highest?`   what a layer says of a value, and the highest of some;
* `Settings.FromLayers`              settings that show what the highest layers say;
* `Settings.ofLayers_ok`             layers that fit make such settings;
* `Settings.layered`                 what is loaded.
-/

namespace TelemetryGate

namespace Layer

/-- What a layer says of a value. -/
def given? (way : List String) (layer : Layer) : Option Setting := Leaf.last? way layer.leaves

/-- What the highest of some layers says that says anything of a value; the highest comes first. -/
def highest? (way : List String) (layers : List Layer) : Option Setting :=
  layers.findSome? (given? way)

theorem highest?_eq {way : List String} {layers layers' : List Layer}
    (h : layers.map (given? way) = layers'.map (given? way)) :
    highest? way layers = highest? way layers' := by
  have hmap : ∀ layers : List Layer,
      highest? way layers = (layers.map (given? way)).findSome? id := by
    intro layers
    rw [List.findSome?_map]
    rfl
  rw [hmap, hmap, h]

/-- A layer that gives what settings can take. -/
def Fits (layer : Layer) : Prop := ∀ l ∈ layer.leaves, l.Fits

instance : DecidablePred Fits := fun layer =>
  inferInstanceAs (Decidable (∀ l ∈ layer.leaves, l.Fits))

end Layer

namespace Settings

/-- Settings that show what the highest of some layers say of each value. -/
structure FromLayers (s : Settings) (layers : List Layer) : Prop where
  field : ∀ f ∈ fields, f.Shows s (Layer.highest? f.way layers)
  level : ∀ name, s.logging.Shows name (Layer.highest? (levelsWay ++ [name]) layers)
  sorted : Members.Sorted s.logging.modules

end Settings

/-- What a test finds a result of is a result. -/
theorem exists_ok {ε α : Type} {p : α → Prop} [DecidablePred p] {x : Except ε α}
    (h : (x.toOption.any fun a => decide (p a)) = true) : ∃ a, x = .ok a ∧ p a := by
  cases x with
  | error e => cases h
  | ok a => exact ⟨a, rfl, of_decide_eq_true h⟩

theorem ok_of_toOption {ε α : Type} {x : Except ε α} {a : α} (h : x.toOption = some a) :
    x = .ok a := by
  cases x with
  | error e => cases h
  | ok b => exact congrArg Except.ok (Option.some.inj h)

/-! ### layers one over another -/

section
variable {layers : List Layer} {way : List String}

/-- Leaves of layers, the lowest first, end with those of the highest. -/
theorem Leaf.last?_flatMap (way : List String) (layers : List Layer) :
    Leaf.last? way (layers.flatMap Layer.leaves) = Layer.highest? way layers.reverse := by
  unfold Layer.highest?
  induction layers with
  | nil => rfl
  | cons layer layers ih =>
    rw [List.flatMap_cons, Leaf.last?_append, ih, List.reverse_cons, List.findSome?_append,
      List.findSome?_singleton]
    rfl

theorem Setting.foldl_overlay (h : ∀ layer ∈ layers, layer.Fits) :
    Overlays (fun root => layers.foldl Setting.overlay root) (layers.flatMap Layer.leaves) := by
  induction layers with
  | nil => exact .id
  | cons layer layers ih =>
    obtain ⟨hlayer, hrest⟩ := List.forall_mem_cons.mp h
    exact (Setting.overlay_overlays fun l hl => (hlayer l hl).way_ne_nil).comp (ih hrest)

end

namespace Settings

theorem leaves_defaultLayer : defaultLayer.leaves =
    [⟨["request_body_max_size_bytes"], .ofScalar (.whole defaultBodyCap)⟩,
      ⟨["telemetry", "plugin_version"], .ofScalar (.text version)⟩,
      ⟨["telemetry", "queue_capacity"], .ofScalar (.whole 1024)⟩,
      ⟨["telemetry", "request_timeout_ms"], .ofScalar (.whole 5000)⟩] := rfl

theorem fits_defaultLayer : defaultLayer.Fits := by
  intro l hl
  rw [leaves_defaultLayer] at hl
  have hone : ∀ f ∈ fields, ∀ (v : Setting) (x : f.kind.El), v.toKind f.kind = .ok x →
      Leaf.Fits ⟨f.way, v⟩ := fun f hf v x h => .field hf h
  simp only [List.mem_cons, List.not_mem_nil, or_false] at hl
  rcases hl with rfl | rfl | rfl | rfl
  · exact hone fields[1] (by simp [fields]) _ defaultBodyCap rfl
  · exact hone fields[5] (by simp [fields]) _ version rfl
  · exact hone fields[6] (by simp [fields]) _ 1024 rfl
  · exact hone fields[7] (by simp [fields]) _ 5000 rfl

/-- What the lowest layer says comes to what the fields hold unless said otherwise. -/
theorem shows_defaultLayer : ∀ f ∈ fields, f.Shows {} (defaultLayer.given? f.way) := by
  intro f hf
  unfold Layer.given?
  rw [leaves_defaultLayer]
  simp only [fields, List.mem_cons, List.not_mem_nil, or_false] at hf
  rcases hf with rfl | rfl | rfl | rfl | rfl | rfl | rfl | rfl | rfl | rfl | rfl | rfl | rfl | rfl |
    rfl | rfl
  all_goals rfl

theorem level_defaultLayer (name : String) : defaultLayer.given? (levelsWay ++ [name]) = none := by
  unfold Layer.given?
  rw [leaves_defaultLayer]
  rfl

end Settings

/-- What is said of a field decides what it shows. -/
theorem Field.Shows.unique {f : Field} {s s' : Settings} {said : Option Setting}
    (h : f.Shows s said) (h' : f.Shows s' said) : f.get s = f.get s' := by
  cases said with
  | none => exact Eq.trans h (Eq.symm h')
  | some v => exact Except.ok.inj (Eq.trans (Eq.symm h) h')

theorem LogSettings.Shows.unique {s s' : LogSettings} {name : String} {said : Option Setting}
    (h : s.Shows name said) (h' : s'.Shows name said) :
    Members.find? name s.modules = Members.find? name s'.modules := by
  cases said with
  | none => exact Eq.trans h (Eq.symm h')
  | some v =>
    obtain ⟨level, hlevel, hfind⟩ := h
    obtain ⟨level', hlevel', hfind'⟩ := h'
    rw [hfind, hfind', Except.ok.inj (hlevel.symm.trans hlevel')]

namespace Settings

variable {layers : List Layer}

/-- **Layers that fit make settings of which every field shows what the highest of them says.** -/
theorem ofLayers_ok (h : ∀ layer ∈ layers, layer.Fits) :
    ∃ s, ofLayers layers = .ok s ∧ s.FromLayers layers.reverse := by
  have hall : ∀ layer ∈ defaultLayer :: layers, layer.Fits :=
    List.forall_mem_cons.mpr ⟨fits_defaultLayer, h⟩
  have hoverlays := Setting.foldl_overlay hall
  have hstands : Stands ((defaultLayer :: layers).foldl Setting.overlay (.table [] none))
      ((defaultLayer :: layers).flatMap Layer.leaves) := by
    refine ⟨fun l hl => ?_, hoverlays.tidy _ Setting.tidy_empty, fun way => ?_⟩
    · obtain ⟨layer, hlayer, hmem⟩ := List.mem_flatMap.mp hl
      exact hall layer hlayer l hmem
    · exact hoverlays.standing way _
  obtain ⟨s, hs, hfields, hsorted, hlevels⟩ := hstands.settings_ok
  have hlast : ∀ way, Leaf.last? way ((defaultLayer :: layers).flatMap Layer.leaves) =
      (Layer.highest? way layers.reverse).or (defaultLayer.given? way) := by
    intro way
    rw [List.flatMap_cons, Leaf.last?_append, Leaf.last?_flatMap]
    rfl
  refine ⟨s, ?_, fun f hf => ?_, fun name => ?_, hsorted⟩
  · rw [ofLayers, hs]
    rfl
  · have hf' := hfields f hf
    rw [hlast] at hf'
    cases hsaid : Layer.highest? f.way layers.reverse with
    | some v =>
      rw [hsaid] at hf'
      exact hf'
    | none =>
      rw [hsaid] at hf'
      exact hf'.unique (shows_defaultLayer f hf)
  · have hname := hlevels name
    rw [hlast, level_defaultLayer, Option.or_none] at hname
    exact hname

/-- The layers of what is around the program and of a file that may be named, the highest first:
variables, that file, and the file of the user. Settings can take what they give. -/
def Given (s : Surroundings) (path : Option Path) (layers : List Layer) : Prop :=
  ∃ user named, globalLayer s = .ok user ∧ path.elim (.ok []) (fileLayer s) = .ok named ∧
    layers = [Layer.ofEnvironment s.environment, named, user] ∧ ∀ layer ∈ layers, layer.Fits

variable {s s' : Surroundings} {path : Option Path}

theorem load_eq {user named : Layer} (huser : globalLayer s = .ok user)
    (hnamed : path.elim (.ok []) (fileLayer s) = .ok named) :
    load s path = ofLayers [user, named, Layer.ofEnvironment s.environment] := by
  unfold load
  rw [huser]
  dsimp only
  rw [hnamed]

theorem load_ok (h : Given s path layers) :
    ∃ settings, load s path = .ok settings ∧ settings.FromLayers layers := by
  obtain ⟨user, named, huser, hnamed, rfl, hfits⟩ := h
  have hfits' : ∀ layer ∈ [user, named, Layer.ofEnvironment s.environment], layer.Fits :=
    fun layer hlayer => hfits layer (List.mem_reverse.mpr hlayer)
  obtain ⟨settings, hsettings, hfrom⟩ := ofLayers_ok hfits'
  exact ⟨settings, (load_eq huser hnamed).trans hsettings, hfrom⟩

variable {layers' : List Layer} {settings settings' : Settings}

/-- Layers that say the same of a field, each for itself, make settings that show the same of it,
whatever they say of other fields. -/
theorem FromLayers.field_eq (h : settings.FromLayers layers) (h' : settings'.FromLayers layers')
    {f : Field} (hf : f ∈ fields)
    (halike : layers.map (Layer.given? f.way) = layers'.map (Layer.given? f.way)) :
    f.get settings = f.get settings' := by
  have hshows := h.field f hf
  rw [Layer.highest?_eq halike] at hshows
  exact hshows.unique (h'.field f hf)

theorem FromLayers.level_eq (h : settings.FromLayers layers) (h' : settings'.FromLayers layers')
    {name : String} (halike : layers.map (Layer.given? (levelsWay ++ [name])) =
      layers'.map (Layer.given? (levelsWay ++ [name]))) :
    Members.find? name settings.logging.modules = Members.find? name settings'.logging.modules := by
  have hshows := h.level name
  rw [Layer.highest?_eq halike] at hshows
  exact hshows.unique (h'.level name)

/-- A host whose user logs all that may help, in no color; a file that is named without its ending
wants warnings alone, and a variable a short queue. No variable tells the home of the user. -/
def around : Surroundings where
  files :=
    { home := ["w"]
      entries :=
        [(["w"], .directory),
          (["w", "x.json"], .file (Utf8.encode "\x7b\"logging\":\x7b\"level\":\"warn\"\x7d\x7d")),
          (["h"], .directory), (["h", "calls-telemetry"], .directory),
          (["h", "calls-telemetry", "config.toml"],
            .file (Utf8.encode "[logging]\nlevel = \"debug\"\ncolor = false\n"))] }
  environment := [("XDG_CONFIG_HOME", "/h"), ("CALLS_TELEMETRY__TELEMETRY__QUEUE_CAPACITY", "7")]
  account := some "/u"

end Settings

end TelemetryGate
