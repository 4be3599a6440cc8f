import TelemetryGate.Proofs.Settings.Sections

/-!
# Settings decoded and settings loaded

Text that gives some of the settings comes to the same settings whether it is decoded or loaded as
the layer of a file.

* `Settings.layerOf`               the layer that entries make;
* `Settings.fromLayers_ofEntries`  the settings that they come to show what it says;
* `Settings.fits_layerOf`          settings can take it;
* `Settings.get_ofEntries`         fields that are not given;
* `Settings.decoded_as_loaded`     both ways are the same.
-/

namespace TelemetryGate.Settings

open Json

/-- Settings that show what the same layers say are the same. -/
theorem FromLayers.eq {layers : List Layer} {s s' : Settings} (h : s.FromLayers layers)
    (h' : s'.FromLayers layers) : s = s' := by
  have hfield : ∀ f ∈ fields, f.get s = f.get s' := fun f hf => h.field_eq h' hf rfl
  have hmodules : s.logging.modules = s'.logging.modules :=
    h.sorted.ext h'.sorted fun name => h.level_eq h' rfl
  obtain ⟨diagnostics, cap, ⟨key, url, build, plugin, queue, timeout⟩, ⟨diagnosticId, server⟩,
    ⟨enabled, level, format, output, file, color, modules⟩⟩ := s
  obtain ⟨diagnostics', cap', ⟨key', url', build', plugin', queue', timeout'⟩,
    ⟨diagnosticId', server'⟩, ⟨enabled', level', format', output', file', color', modules'⟩⟩ := s'
  simp only [fields, List.forall_mem_cons, List.not_mem_nil, false_implies, implies_true,
    and_true] at hfield hmodules
  obtain ⟨rfl, rfl, rfl, rfl, rfl, rfl, rfl, rfl, rfl, rfl, rfl, rfl, rfl, rfl, rfl, rfl⟩ := hfield
  rw [hmodules]

theorem highest?_singleton (way : List String) (layer : Layer) :
    Layer.highest? way [layer] = layer.given? way := List.findSome?_singleton

/-! ### the layer of entries -/

/-- The layer that entries make. -/
def layerOf (origin : Option String) (es : List Entry) : Layer :=
  Setting.membersOfJson origin (form.json Part.json es)

theorem form_lowerCase : form.LowerCase := by decide

/-- Every name is a step by itself. -/
theorem way?_slot : ∀ slot ∈ form.slots,
    Layer.way? slot.name = some [Text.lower slot.name] := by decide

theorem leaves_layerOf (origin : Option String) (es : List Entry) :
    (layerOf origin es).leaves = Setting.leavesOf (layerOf origin es) := by
  refine Layer.leaves_eq fun m hm => ?_
  rw [layerOf, Setting.membersOfJson_eq] at hm
  obtain ⟨m', hm', rfl⟩ := List.mem_map.mp hm
  obtain ⟨e, _, rfl⟩ := Form.mem_json hm'
  exact way?_slot e.slot e.mem

theorem given?_layerOf (origin : Option String) (es : List Entry) (n : String)
    (way : List String) :
    (layerOf origin es).given? (n :: way) = (Members.find? n (form.json Part.json es)).bind
      fun v => Leaf.last? way (Setting.ofJson origin v).leaves := by
  have hplain : Members.Plain (layerOf origin es) := by
    rw [layerOf, Setting.membersOfJson_eq]
    exact (form_lowerCase.plain Part.json es).map _
  rw [Layer.given?, leaves_layerOf, Leaf.last?_leavesOf hplain, layerOf,
    Setting.find?_membersOfJson, Option.bind_map]
  rfl

/-! ### what entries give -/

variable {es : List Entry}

theorem mem_ways {e : Entry} (he : e ∈ es) {way : List String}
    (hway : way ∈ e.slot.kind.ways e.value) : e.name :: way ∈ ways es :=
  List.mem_flatMap.mpr ⟨e, he, List.mem_map_of_mem hway⟩

theorem shows_section {ρ : Type} {form' : Form Kind Kind.El ρ} {name : String}
    {part : Settings → ρ} {lenses : List form'.Lens} (hform : form'.Within name part lenses)
    {names : List String} (hagrees : form'.Agrees names
      (Members.find? name (form.json Part.json es)) (part (ofEntries es)))
    (origin : Option String) : ∀ f ∈ fieldsOf name part lenses,
      f.Shows (ofEntries es) ((layerOf origin es).given? f.way) := by
  intro f hf
  have hshows := hform.shows hagrees origin f hf
  obtain ⟨l, _, rfl⟩ := List.mem_map.mp hf
  rw [given?_layerOf]
  exact hshows

theorem get_section {ρ : Type} {form' : Form Kind Kind.El ρ} {name : String} {part : Settings → ρ}
    {lenses : List form'.Lens} (hform : form'.Within name part lenses) {names : List String}
    {there : Option Json} (hagrees : form'.Agrees names there (part (ofEntries es)))
    (hnames : ∀ n ∈ names, [name, n] ∈ ways es) :
    ∀ f ∈ fieldsOf name part lenses, f.way ∉ ways es → f.get (ofEntries es) = f.get {} := by
  intro f hf hway
  obtain ⟨l, _, rfl⟩ := List.mem_map.mp hf
  show l.get (part (ofEntries es)) = l.get (part {})
  rw [hform.blank]
  exact hagrees.get_eq l fun hmem => hway (hnames _ hmem)

section
variable (h : form.Sound Part.Written es)
include h

/-- A part that is a section agrees with its object, and its names are those that are given. -/
theorem agrees_of {ρ : Type} {form' : Form Kind Kind.El ρ} (l : form.Lens)
    (entries : l.slot.kind.Given → List (form'.Entry Kind.El)) (part : l.slot.kind.El → ρ)
    (hvalue : ∀ v, part (Part.value _ v) = form'.record (entries v))
    (hjson : ∀ v, Part.json _ v = .object (form'.json Kind.json (entries v)))
    (hwritten : ∀ v s t, Part.Written _ v s t → form'.ObjectOf Kind.Written (entries v) s t)
    (hways : ∀ v, Part.ways _ v = (entries v).map fun e => [e.name])
    (hblank : part (l.get form.blank) = form'.blank) :
    ∃ names, (∀ n ∈ names, [l.slot.name, n] ∈ ways es) ∧ form'.Agrees names
      (Members.find? l.slot.name (form.json Part.json es)) (part (l.get (ofEntries es))) := by
  rcases Form.lens_cases form_loose h.nodup l Part.value Part.json with
    ⟨v, hv, hfind, hget⟩ | ⟨_, hfind, hget⟩
  · obtain ⟨s, t, hobject⟩ := h.written _ hv
    refine ⟨_, fun n hn => ?_, .of_given (hwritten v s t hobject) ?_ ?_⟩
    · obtain ⟨e, he, rfl⟩ := List.mem_map.mp hn
      have hway : [e.name] ∈ Part.ways _ v := by
        rw [hways]
        exact List.mem_map_of_mem he
      exact mem_ways hv hway
    · rw [hfind, hjson]
    · rw [← hvalue]
      exact congrArg part hget
  · refine ⟨[], fun n hn => (nomatch hn), .of_absent hfind ?_⟩
    rw [← hblank]
    exact congrArg part hget

theorem agrees_sink : ∃ names, (∀ n ∈ names, ["telemetry", n] ∈ ways es) ∧
    SinkSettings.form.Agrees names (Members.find? "telemetry" (form.json Part.json es))
      (ofEntries es).sink :=
  agrees_of h sinkLens (fun v => v) (fun r => r) (fun _ => rfl) (fun _ => rfl)
    (fun _ _ _ hv => hv) (fun _ => rfl) rfl

theorem agrees_host : ∃ names, (∀ n ∈ names, ["host", n] ∈ ways es) ∧
    HostSettings.form.Agrees names (Members.find? "host" (form.json Part.json es))
      (ofEntries es).host :=
  agrees_of h hostLens (fun v => v) (fun r => r) (fun _ => rfl) (fun _ => rfl)
    (fun _ _ _ hv => hv) (fun _ => rfl) rfl

theorem agrees_logging : ∃ names, (∀ n ∈ names, ["logging", n] ∈ ways es) ∧
    LogSettings.form.Agrees names (Members.find? "logging" (form.json Part.json es))
      (ofEntries es).logging :=
  agrees_of h loggingLens (fun v => v) (fun r => r) (fun _ => rfl) (fun _ => rfl)
    (fun _ _ _ hv => hv) (fun _ => rfl) rfl

/-! ### what settings show of them -/

/-- A part that is a field shows what is said of it. -/
theorem shows_single (l : form.Lens) {f : Field} (hf : f ∈ fields) (hway : f.way = [l.slot.name])
    (value : l.slot.kind.Given → f.kind.El)
    (hjson : ∀ v, Part.json _ v = f.kind.json (value v))
    (hwritten : ∀ v s t, Part.Written _ v s t → f.kind.Written (value v) s t)
    (hget : ∀ v s, l.get s = Part.value _ v → f.get s = value v)
    (hblank : ∀ s, l.get s = l.get form.blank → f.get s = f.get {}) (origin : Option String) :
    f.Shows (ofEntries es) ((layerOf origin es).given? f.way) := by
  rw [hway, given?_layerOf]
  rcases Form.lens_cases form_loose h.nodup l Part.value Part.json with
    ⟨v, hv, hfind, hshown⟩ | ⟨_, hfind, hshown⟩
  · obtain ⟨s, t, htext⟩ := h.written _ hv
    rw [hfind, hjson]
    exact Field.shows_written hf (hwritten v s t htext) (hget v _ hshown) origin
  · rw [hfind]
    exact hblank _ hshown

/-- **The settings that entries come to show what the layer says that they make.** -/
theorem fromLayers_ofEntries (origin : Option String) :
    (ofEntries es).FromLayers [layerOf origin es] := by
  obtain ⟨_, _, hsink⟩ := agrees_sink h
  obtain ⟨_, _, hhost⟩ := agrees_host h
  obtain ⟨_, _, hlogging⟩ := agrees_logging h
  obtain ⟨hsorted, hlevels⟩ := levels_of_agrees hlogging origin
  refine ⟨fun f hf => ?_, fun name => ?_, hsorted⟩
  · have hfield := hf
    rw [highest?_singleton]
    rcases mem_fields.mp hf with rfl | rfl | hf | hf | hf
    · exact shows_single h diagnosticsLens hfield rfl (fun v => v) (fun _ => rfl)
        (fun _ _ _ hv => hv) (fun _ _ hget => hget) (fun _ hget => hget) origin
    · exact shows_single h bodyCapLens hfield rfl (fun v => v) (fun _ => rfl)
        (fun _ _ _ hv => hv) (fun _ _ hget => hget) (fun _ hget => hget) origin
    · exact shows_section within_sink hsink origin f hf
    · exact shows_section within_host hhost origin f hf
    · exact shows_section within_logging hlogging origin f hf
  · rw [highest?_singleton]
    show LogSettings.Shows _ name ((layerOf origin es).given? ["logging", "modules", name])
    rw [given?_layerOf]
    exact hlevels name

/-- Settings can take that layer. -/
theorem fits_layerOf (origin : Option String) : (layerOf origin es).Fits := by
  intro l hl
  rw [leaves_layerOf, Setting.leavesOf_eq, layerOf, Setting.membersOfJson_eq] at hl
  obtain ⟨m, hm, hl⟩ := List.mem_flatMap.mp hl
  obtain ⟨m', hm', rfl⟩ := List.mem_map.mp hm
  obtain ⟨e, he, rfl⟩ := Form.mem_json hm'
  obtain ⟨l', hl', rfl⟩ := List.mem_map.mp hl
  obtain ⟨s, t, hwritten⟩ := h.written e he
  have hname : Text.lower e.name = e.name := form_lowerCase e.slot e.mem
  show (l'.under [Text.lower e.name]).Fits
  rw [hname]
  obtain ⟨slot, hslot, v⟩ := e
  have hcases := hslot
  simp only [form, List.mem_cons, List.not_mem_nil, or_false] at hcases
  rcases hcases with rfl | rfl | rfl | rfl | rfl
  · have hfield : diagnosticsField ∈ fields := mem_fields.mpr (.inl rfl)
    exact Field.fits hfield hwritten origin l' hl'
  · have hfield : bodyCapField ∈ fields := mem_fields.mpr (.inr (.inl rfl))
    exact Field.fits hfield hwritten origin l' hl'
  · exact within_sink.fits [] rfl (Form.ObjectOf.sound hwritten) origin
      (fun _ _ hmore => nomatch hmore) l' hl'
  · exact within_host.fits [] rfl (Form.ObjectOf.sound hwritten) origin
      (fun _ _ hmore => nomatch hmore) l' hl'
  · have hsound := Form.ObjectOf.sound hwritten
    refine within_logging.fits [LogSettings.levels.slot] rfl hsound origin
      (fun e he hmore => ?_) l' hl'
    obtain ⟨u, w, hlevels⟩ := hsound.written e he
    obtain ⟨slot, hslot, x⟩ := e
    obtain rfl := List.mem_singleton.mp hmore
    exact fits_levels (Kind.Written.plain hlevels) origin

/-! ### what they do not give -/

/-- **A field that is not given is as it is in settings of which nothing is said.** -/
theorem get_ofEntries {f : Field} (hf : f ∈ fields) (hway : f.way ∉ ways es) :
    f.get (ofEntries es) = f.get {} := by
  obtain ⟨_, hsinkWays, hsink⟩ := agrees_sink h
  obtain ⟨_, hhostWays, hhost⟩ := agrees_host h
  obtain ⟨_, hloggingWays, hlogging⟩ := agrees_logging h
  rcases mem_fields.mp hf with rfl | rfl | hf | hf | hf
  · rcases Form.entry_cases form_loose es diagnosticsLens.mem with ⟨v, hv⟩ | hno
    · exact absurd (mem_ways hv List.mem_cons_self) hway
    · exact Form.get_fill_of_not_mem diagnosticsLens hno
  · rcases Form.entry_cases form_loose es bodyCapLens.mem with ⟨v, hv⟩ | hno
    · exact absurd (mem_ways hv List.mem_cons_self) hway
    · exact Form.get_fill_of_not_mem bodyCapLens hno
  · exact get_section within_sink hsink hsinkWays f hf hway
  · exact get_section within_host hhost hhostWays f hf hway
  · exact get_section within_logging hlogging hloggingWays f hf hway

theorem modules_ofEntries (hway : levelsWay ∉ ways es) :
    (ofEntries es).logging.modules = ({} : Settings).logging.modules := by
  obtain ⟨_, hways, hagrees⟩ := agrees_logging h
  exact hagrees.get_eq LogSettings.levels fun hmem => hway (hways _ hmem)

/-! ### both ways -/

theorem ofLayers_layerOf (origin : Option String) :
    ofLayers [layerOf origin es] = .ok (ofEntries es) := by
  have hfits : ∀ layer ∈ [layerOf origin es], layer.Fits :=
    List.forall_mem_singleton.mpr (fits_layerOf h origin)
  obtain ⟨s, hs, hfrom⟩ := ofLayers_ok hfits
  rw [hs, hfrom.eq (fromLayers_ofEntries h origin)]

end

variable {text : String}

theorem ofFile_written (h : WrittenAs es (Utf8.encode text)) {formats : FileFormats}
    {tree : FileTree} {file : Path} {found : FoundFile} (hfind : tree.find formats file = .ok found)
    (hformat : found.format = .json) (htext : tree.readText? found.path = .ok (some text)) :
    Layer.ofFile formats tree file = .ok (layerOf (some (tree.originOf found.path)) es) := by
  unfold Layer.ofFile
  rw [hfind]
  dsimp only
  rw [htext, hformat]
  dsimp only [Layer.ofText]
  rw [value_written h]
  rfl

/-- **Text that gives some of the settings, each once at most, under its name and with a value of
its own kind, comes to the same settings whether it is decoded or loaded from a file. What it does
not give, be it a whole section or a field of one, is as it is in settings of which nothing is
said.** -/
theorem decoded_as_loaded (h : WrittenAs es (Utf8.encode text)) :
    decode (Utf8.encode text) = .ok (ofEntries es) ∧
    (∀ (s : Surroundings) (file : Path) (found : FoundFile),
      s.files.find s.formats file = .ok found → found.format = .json →
      s.files.readText? found.path = .ok (some text) →
      loadFile s file = .ok (ofEntries es)) ∧
    (∀ f ∈ fields, f.way ∉ ways es → f.get (ofEntries es) = f.get {}) ∧
    (levelsWay ∉ ways es →
      (ofEntries es).logging.modules = ({} : Settings).logging.modules) := by
  have hsound := h.sound
  refine ⟨decode_written h, fun s file found hfind hformat htext => ?_,
    fun f hf => get_ofEntries hsound hf, modules_ofEntries hsound⟩
  have hlayer : fileLayer s file = .ok (layerOf (some (s.files.originOf found.path)) es) :=
    congrArg (Except.mapError LoadFault.source) (ofFile_written h hfind hformat htext)
  unfold loadFile
  rw [hlayer]
  exact ofLayers_layerOf hsound _

/-- A short queue, and reporting that is given as nothing. -/
def partly : String :=
  "\x7b\"telemetry\":\x7b\"queue_capacity\":7\x7d,\"enable_diagnostics\":null\x7d"

def queueLens : SinkSettings.form.Lens := SinkSettings.lenses[4]

def shortQueue : List (SinkSettings.form.Entry Kind.El) :=
  [⟨queueLens.slot, queueLens.mem, (7 : Nat)⟩]

def partlyEntries : List Entry :=
  [⟨sinkLens.slot, sinkLens.mem, shortQueue⟩, ⟨diagnosticsLens.slot, diagnosticsLens.mem, none⟩]

def queueBytes : List UInt8 := memberBytes "queue_capacity" (decimals 7)

theorem written_shortQueue (rest : List UInt8) :
    Part.Written .sink shortQueue (123 :: commas true [queueBytes] [125] ++ rest) rest := by
  have hrest : 123 :: commas true [queueBytes] [125] ++ rest =
      123 :: commas true [queueBytes] (125 :: rest) :=
    congrArg (List.cons 123) (List.append_assoc _ [125] rest)
  have hseven : Kind.Written .size (7 : Nat) (decimals 7 ++ 125 :: rest) (125 :: rest) :=
    .whole (by decide) (by decide) (stops_cons (by decide) rest)
  rw [hrest]
  exact ⟨List.nodup_singleton _, _, rfl,
    .member (key_member true "queue_capacity" _ [] _) hseven (.close .done)⟩

theorem writtenAs_partly : WrittenAs partlyEntries (Utf8.encode partly) := by
  have hbytes : Utf8.encode partly = 123 :: commas true
      [memberBytes "telemetry" (123 :: commas true [queueBytes] [125]),
        memberBytes "enable_diagnostics" [110, 117, 108, 108]] [125] := by decide +kernel
  rw [hbytes]
  exact ⟨_, [], .done, ⟨by decide, _, rfl, .member (key_member true "telemetry" _ _ _)
    (written_shortQueue _)
    (.member (key_member false "enable_diagnostics" _ _ _) .null (.close .done))⟩, .done⟩

def partlyTree : FileTree where
  home := ["w"]
  entries := [(["w"], .directory), (["w", "x.json"], .file (Utf8.encode partly))]

theorem find_partlyTree : ∃ found, partlyTree.find .own "x.json" = .ok found ∧
    found.format = .json ∧ partlyTree.readText? found.path = .ok (some partly) := by
  obtain ⟨found, hfind, hformat, htext⟩ : ∃ found, partlyTree.find .own "x.json" = .ok found ∧
      found.format = .json ∧ (partlyTree.readText? found.path).toOption = some (some partly) :=
    exists_ok (by decide +kernel)
  exact ⟨found, hfind, hformat, ok_of_toOption htext⟩

theorem decoded_as_loaded_partly :
    WrittenAs partlyEntries (Utf8.encode partly) ∧
    decode (Utf8.encode partly) = .ok { sink := { queueCapacity := 7 } } ∧
    loadFile { files := partlyTree } "x.json" = .ok { sink := { queueCapacity := 7 } } := by
  obtain ⟨found, hfind, hformat, htext⟩ := find_partlyTree
  obtain ⟨hdecode, hload, _⟩ := decoded_as_loaded writtenAs_partly
  exact ⟨writtenAs_partly, hdecode, hload _ _ found hfind hformat htext⟩

end TelemetryGate.Settings
