import TelemetryGate.Command.Execute
import TelemetryGate.Proofs.Settings.Table
import TelemetryGate.Proofs.Toml.Document
import TelemetryGate.Proofs.Utf8

/-!
# Settings that are shown and loaded again

The text that settings are shown as comes to them again when it is saved and loaded, in whatever
order it names modules.

* `Settings.sorted_load`   settings that are loaded have the levels of modules in order;
* `Surroundings.Holds`     a name leads to a file of tables with some text;
* `Settings.ShownAs`       the text that a command shows;
* `Settings.LoadedFrom`    the settings that come of every file with some text;
* `Settings.loaded_shown`  what is shown comes to the settings with the key masked.
-/

namespace TelemetryGate

/-! ### levels of modules in order -/

namespace Settings

theorem sorted_logging {v : Setting} (hv : v.Ordered) {r : LogSettings}
    (h : v.toRecord Setting.toKind LogSettings.form = .ok r) : Members.Sorted r.modules := by
  refine Setting.toRecord_keeps (P := fun r => Members.Sorted r.modules) Members.sorted_nil
    (fun slot hslot v hv x hx record hrecord => ?_) hv h
  simp only [LogSettings.form, List.mem_cons, List.not_mem_nil, or_false] at hslot
  rcases hslot with rfl | rfl | rfl | rfl | rfl | rfl | rfl
  · exact hrecord
  · exact hrecord
  · exact hrecord
  · exact hrecord
  · exact hrecord
  · exact hrecord
  · cases hv with
    | single v origin => cases hx
    | list origin all => cases hx
    | table origin sorted all => exact Setting.sorted_toTexts sorted hx

variable {s : Surroundings} {path : Option Path} {c : Settings} {layer : Layer}

theorem ordered_globalLayer (h : globalLayer s = .ok layer) : layer.Ordered := by
  have hnil : Layer.Ordered [] := fun _ hm => nomatch hm
  unfold globalLayer at h
  split at h
  · cases h
    exact hnil
  · next file _ =>
    cases hfile : Layer.ofFile s.formats s.files file with
    | ok user =>
      rw [hfile] at h
      cases h
      exact .ofFile hfile
    | error f =>
      rw [hfile] at h
      dsimp only at h
      split at h
      · cases h
      · cases h
        exact hnil

theorem sorted_ofLayers {layers : List Layer} (hlayers : ∀ layer ∈ layers, layer.Ordered)
    (h : ofLayers layers = .ok c) : Members.Sorted c.logging.modules := by
  have hfold : ∀ (layers : List Layer) (root : Setting), (∀ layer ∈ layers, layer.Ordered) →
      root.Ordered → (layers.foldl Setting.overlay root).Ordered := by
    intro layers
    induction layers with
    | nil => exact fun root _ hroot => hroot
    | cons layer layers ih =>
      intro root hlayers hroot
      obtain ⟨hlayer, hmore⟩ := List.forall_mem_cons.mp hlayers
      exact ih _ hmore (hroot.overlay hlayer)
  have hdefault : defaultLayer.Ordered := by
    unfold Layer.Ordered defaultLayer
    simp only [List.forall_mem_cons]
    exact ⟨.single _ _, .single _ _, .single _ _, .single _ _, fun _ hm => nomatch hm⟩
  have hroot := hfold (defaultLayer :: layers) (.table [] none)
    (List.forall_mem_cons.mpr ⟨hdefault, hlayers⟩) Setting.ordered_empty
  refine Setting.toRecord_keeps (P := fun c => Members.Sorted c.logging.modules) Members.sorted_nil
    (fun slot hslot v hv x hx record hrecord => ?_) hroot (Setting.mapError_eq_ok.mp h)
  simp only [form, List.mem_cons, List.not_mem_nil, or_false] at hslot
  rcases hslot with rfl | rfl | rfl | rfl | rfl
  · exact hrecord
  · exact hrecord
  · exact hrecord
  · exact hrecord
  · exact sorted_logging hv hx

/-- **Settings that are loaded have the levels of modules in the order of their names.** -/
theorem sorted_load (h : load s path = .ok c) : Members.Sorted c.logging.modules := by
  unfold load at h
  cases huser : globalLayer s with
  | error f =>
    rw [huser] at h
    cases h
  | ok user =>
    rw [huser] at h
    dsimp only at h
    cases hnamed : path.elim (.ok []) (fileLayer s) with
    | error f =>
      rw [hnamed] at h
      cases h
    | ok named =>
      rw [hnamed] at h
      have hordered : named.Ordered := by
        cases path with
        | none =>
          cases hnamed
          exact fun _ hm => nomatch hm
        | some file => exact .ofFile (Setting.mapError_eq_ok.mp hnamed)
      refine sorted_ofLayers ?_ h
      simp only [List.forall_mem_cons]
      exact ⟨ordered_globalLayer huser, hordered, .ofEnvironment _, fun _ hm => nomatch hm⟩

end Settings

/-! ### what is shown, saved -/

/-- A name leads to a file of tables with some text. -/
def Surroundings.Holds (s : Surroundings) (name : Path) (text : String) : Prop :=
  ∃ found, s.files.find s.formats name = .ok found ∧ found.format = .toml ∧
    s.files.read found.path = .ok (Utf8.encode text)

namespace Settings

open Toml hiding text

variable {s around : Surroundings} {path : Option Path} {c : Settings} {text : String}

/-- Settings are shown as some text; what is around tells in which order modules come. -/
def ShownAs (c : Settings) (config : Option Path) (around : Surroundings) (text : String) : Prop :=
  ∀ outside o g each,
    ((⟨c, config⟩ : Job).execute around outside o .showSettings g each).answer = .ok (.text text)

theorem answer_showSettings (j : Job) (around : Surroundings) (outside : List UInt8)
    (o : Outcomes) (g : Gate) (each : Nat → Outcomes) :
    (j.execute around outside o .showSettings g each).answer =
      (j.settings.shown around.traversal).map .text := by
  rw [Job.execute]

theorem shownAs_iff {config : Option Path} :
    c.ShownAs config around text ↔ c.shown around.traversal = .ok text := by
  constructor
  · intro h
    have hanswer := h [] Outcomes.good { cap := 0 } fun _ => Outcomes.good
    rw [answer_showSettings] at hanswer
    obtain ⟨shown, hshown, htext⟩ := Json.map_ok hanswer
    cases htext
    exact hshown
  · intro h outside o g each
    rw [answer_showSettings, h]
    rfl

/-- Every file with some text comes to the settings. -/
def LoadedFrom (c : Settings) (text : String) : Prop :=
  ∀ (around : Surroundings) (file : Path), around.Holds file text →
    loadFile around file = .ok c

theorem loadFile_of_find {file : Path} {found : FoundFile} {ms : List (String × Toml)}
    (hfind : around.files.find around.formats file = .ok found)
    (hformat : found.format = .toml)
    (hbytes : around.files.read found.path = .ok (Utf8.encode text))
    (hread : readDocument text = some ms) : loadFile around file =
      ofLayers [Setting.membersOfToml (some (around.files.originOf found.path)) ms] := by
  have htext : around.files.readText? found.path = .ok (some text) := by
    rw [FileTree.readText?, hbytes, Except.map, Utf8.decode?_encode]
  have hlayer : Layer.ofFile around.formats around.files file =
      .ok (Setting.membersOfToml (some (around.files.originOf found.path)) ms) := by
    unfold Layer.ofFile
    rw [hfind]
    dsimp only
    rw [htext, hformat]
    dsimp only [Layer.ofText]
    rw [hread]
  unfold loadFile fileLayer
  rw [hlayer]
  rfl

/-- The text of the table of settings, saved, comes to these settings. -/
theorem loadedFrom_members (t : Members.Traversal String) (hsigned : c.Signed)
    (hsorted : Members.Sorted c.logging.modules)
    (hlower : ∀ m ∈ c.logging.modules, Text.lower m.1 = m.1) :
    c.LoadedFrom (writeDocument (c.members t)) := by
  intro around file ⟨found, hfind, hformat, hbytes⟩
  have hread := readDocument_writeDocument (regular_members (t := t) hsigned hsorted) (by decide)
  rw [loadFile_of_find hfind hformat hbytes hread, ofLayers_members hsigned hsorted hlower]

/-! ### the text -/

variable {t : Members.Traversal String}

theorem signed_of_toToml? {ms : List (String × Toml)} (h : c.toToml? t = some ms) : c.Signed := by
  have hnumber : ∀ {n : Nat} {v : Toml}, Toml.ofNat? n = some v → Word.isSigned n = true :=
    fun hv => (Option.ite_none_right_eq_some.mp hv).1
  unfold toToml? SinkSettings.toToml? at h
  obtain ⟨cap, hcap, h⟩ := Option.bind_eq_some_iff.mp h
  obtain ⟨sink, hsink, _⟩ := Option.map_eq_some_iff.mp h
  obtain ⟨capacity, hcapacity, hsink⟩ := Option.bind_eq_some_iff.mp hsink
  obtain ⟨timeout, htimeout, _⟩ := Option.map_eq_some_iff.mp hsink
  simp only [Signed, List.forall_mem_cons]
  exact ⟨hnumber hcap, hnumber hcapacity, hnumber htimeout, fun _ hn => nomatch hn⟩

theorem logging_redacted (c : Settings) : c.redacted.logging = c.logging := by
  unfold redacted
  split <;> rfl

theorem signed_redacted : c.redacted.Signed ↔ c.Signed := by
  unfold redacted
  split <;> exact Iff.rfl

/-- There is a text if and only if the numbers fit, and it is that of the table. -/
theorem shown_eq_ok : c.shown t = .ok text ↔
    c.Signed ∧ text = writeDocument (c.redacted.members t) := by
  unfold shown
  constructor
  · intro h
    cases htable : c.redacted.toToml? t with
    | none =>
      rw [htable] at h
      cases h
    | some ms =>
      have hsigned := signed_of_toToml? htable
      rw [toToml?_eq hsigned] at h
      cases h
      exact ⟨signed_redacted.mp hsigned, rfl⟩
  · rintro ⟨hsigned, rfl⟩
    rw [toToml?_eq (signed_redacted.mpr hsigned)]
    rfl

/-- **Settings that are loaded are shown if and only if their numbers fit a signed word. What they
are shown as, saved as a file of tables, comes to the settings with the key masked, if the names of
modules are in lower case, and in whatever order modules come.** -/
theorem loaded_shown (h : load s path = .ok c) (around : Surroundings) :
    ((∃ text, c.ShownAs path around text) ↔ c.Signed) ∧
    ∀ text, c.ShownAs path around text → (∀ m ∈ c.logging.modules, Text.lower m.1 = m.1) →
      c.redacted.LoadedFrom text := by
  refine ⟨⟨fun ⟨text, hshown⟩ => ?_, fun hsigned => ?_⟩, fun text hshown hlower => ?_⟩
  · exact (shown_eq_ok.mp (shownAs_iff.mp hshown)).1
  · exact ⟨_, shownAs_iff.mpr (shown_eq_ok.mpr ⟨hsigned, rfl⟩)⟩
  · obtain ⟨hsigned, rfl⟩ := shown_eq_ok.mp (shownAs_iff.mp hshown)
    have hsorted := sorted_load h
    rw [← logging_redacted] at hsorted hlower
    exact loadedFrom_members around.traversal (signed_redacted.mpr hsigned) hsorted hlower

/-! ### section by section -/

/-- The text of the table up to the levels of modules, section by section. -/
def front (c : Settings) : List Char :=
  writeSimple c.entries ++ writeSection ["telemetry"] c.sink.members ++
    writeSection ["host"] c.host.members ++ writeSection ["logging"] c.logging.entries ++
    writeSection levelsWay []

theorem writeDocument_members (h : c.Signed) : writeDocument (c.members t) =
    String.ofList (c.front ++ writeSimple (c.logging.levelMembers t)) := by
  have hlines : writeSimple (c.logging.members t) = writeSimple c.logging.entries := by
    rw [LogSettings.members, writeSimple_append simple_logging, writeSimple, writeSimple,
      List.append_nil]
  have hlevels : writeTables ["logging"] (c.logging.members t) =
      writeSection levelsWay (c.logging.levelMembers t) := by
    rw [LogSettings.members, writeTables_append simple_logging, writeTables_table,
      writeTables_simple simple_levels, writeTables, List.append_nil, List.append_nil]
    rfl
  have hlogging : writeSection ["logging"] (c.logging.members t) =
      writeSection ["logging"] c.logging.entries := by
    rw [writeSection, hlines, writeSection]
  have hnone : writeSimple [("telemetry", .table c.sink.members), ("host", .table c.host.members),
      ("logging", .table (c.logging.members t))] = [] := writeSimple_tables (by simp [isTable])
  rw [writeDocument, members, writeSimple_append (simple_entries h), hnone,
    writeTables_append (simple_entries h), writeTables_table, writeTables_table, writeTables_table,
    writeTables_simple (simple_sink h), writeTables_simple simple_host, writeTables]
  rw [writeSection_eq levelsWay] at hlevels
  simp only [List.nil_append, hlevels, hlogging, front, List.append_assoc, List.append_nil]

/-- A file of tables with some text, and nothing else. -/
def saved (text : String) : Surroundings where
  files :=
    { home := ["w"]
      entries := [(["w"], .directory), (["w", "c.toml"], .file (Utf8.encode text))] }

section
variable (text : String)

theorem look_saved : (saved text).files.look "/w/c.toml" = .ok (.file (Utf8.encode text)) := by
  have hempty : ("/w/c.toml" : Path) ≠ "" := by decide +kernel
  have habsolute : Path.isAbsolute "/w/c.toml" = true := by decide +kernel
  have hsteps : Path.steps "/w/c.toml" = ["w", "c.toml"] := by decide +kernel
  have hslash : Path.endsInSlash "/w/c.toml" = false := by decide +kernel
  have hlocate : (saved text).files.locate "/w/c.toml" = .ok ["w", "c.toml"] := by
    rw [FileTree.locate, if_neg hempty, FileTree.start, habsolute, hsteps, hslash]
    rfl
  rw [FileTree.look, hlocate]
  rfl

theorem find_saved : (saved text).files.find .own "c.toml" = .ok ⟨"/w/c.toml", .toml⟩ := by
  have hpath : Path.join (saved text).files.homePath "c.toml" = "/w/c.toml" := by
    show Path.join (("/" : String) ++ Path.ofSteps ["w"]) "c.toml" = "/w/c.toml"
    decide +kernel
  have hformat : (Path.fileName? "/w/c.toml").bind FileFormat.ofName? = some .toml := by
    decide +kernel
  rw [FileTree.find, hpath, FileTree.isFile, look_saved, hformat]
  rfl

theorem read_saved : (saved text).files.read "/w/c.toml" = .ok (Utf8.encode text) := by
  rw [FileTree.read, look_saved]

theorem holds_saved : (saved text).Holds "c.toml" text :=
  ⟨_, find_saved text, rfl, read_saved text⟩

end

/-- Two modules, one with a name in quotes, and a key. -/
def quiet : String :=
  "[telemetry]\nwrite_key = \"k\"\n\n[logging.modules]\n\"b c\" = \"warn\"\na = \"off\"\n"

def quietSettings : Settings where
  sink := { writeKey := "k" }
  logging := { modules := [("a", "off"), ("b c", "warn")] }

/-- What is around where modules come in the order of a traversal, and no files. -/
def visiting (traversal : Members.Traversal String) : Surroundings where
  files := { home := [] }
  traversal

def quietShown (modules : String) : String :=
  "request_body_max_size_bytes = 1048576\n\n[telemetry]\nwrite_key = \"********\"\n"
    ++ "dataplane_url = \"\"\nbuild_hash = \"\"\nplugin_version = \"1.1.0\"\n"
    ++ "queue_capacity = 1024\nrequest_timeout_ms = 5000\n\n"
    ++ "[host]\ndiagnostic_id = \"\"\nserver_version = \"\"\n\n"
    ++ "[logging]\nenabled = true\nlevel = \"info\"\nformat = \"text\"\noutput = \"stderr\"\n"
    ++ "color = true\n\n[logging.modules]\n" ++ modules

def quietModules : String := "a = \"off\"\n\"b c\" = \"warn\"\n"

def quietModulesBackwards : String := "\"b c\" = \"warn\"\na = \"off\"\n"

/-- They are loaded, shown in either order, and loaded again from what was shown. -/
theorem loaded_shown_quiet :
    load (saved quiet) (some "c.toml") = .ok quietSettings ∧
    quietSettings.ShownAs (some "c.toml") (visiting .byName) (quietShown quietModules) ∧
    loadFile (saved (quietShown quietModules)) "c.toml" = .ok quietSettings.redacted ∧
    quietSettings.ShownAs (some "c.toml") (visiting .backwards)
      (quietShown quietModulesBackwards) ∧
    loadFile (saved (quietShown quietModulesBackwards)) "c.toml" =
      .ok quietSettings.redacted := by
  have hload : load (saved quiet) (some "c.toml") = .ok quietSettings :=
    ok_of_toOption (by decide +kernel)
  have hsigned : quietSettings.Signed := by decide
  have htext : quietShown quietModules =
      writeDocument (quietSettings.redacted.members .byName) := by
    rw [writeDocument_members (signed_redacted.mpr hsigned)]
    decide +kernel
  have hback : quietShown quietModulesBackwards =
      writeDocument (quietSettings.redacted.members .backwards) := by
    rw [writeDocument_members (signed_redacted.mpr hsigned)]
    decide +kernel
  have hshown : quietSettings.ShownAs (some "c.toml") (visiting .byName)
      (quietShown quietModules) :=
    shownAs_iff.mpr (shown_eq_ok.mpr ⟨hsigned, htext⟩)
  have hshownBack : quietSettings.ShownAs (some "c.toml") (visiting .backwards)
      (quietShown quietModulesBackwards) :=
    shownAs_iff.mpr (shown_eq_ok.mpr ⟨hsigned, hback⟩)
  have hlower : ∀ m ∈ quietSettings.logging.modules, Text.lower m.1 = m.1 := by decide +kernel
  exact ⟨hload, hshown, (loaded_shown hload _).2 _ hshown hlower _ _ (holds_saved _),
    hshownBack, (loaded_shown hload _).2 _ hshownBack hlower _ _ (holds_saved _)⟩

/-- A number, given as a text, that is too great for a signed word. -/
def great : String := "request_body_max_size_bytes = \"9223372036854775808\"\n"

/-- A section given as a list, in which a module has a name that is not in lower case. -/
def listed : String :=
  "logging = [true, \"info\", \"text\", \"stderr\", \"x.log\", true, \x7bA = \"debug\"\x7d]\n"

def listedSettings : Settings where
  logging := { file := "x.log", modules := [("A", "debug")] }

def listedShown : String :=
  "request_body_max_size_bytes = 1048576\n\n[telemetry]\nwrite_key = \"\"\n"
    ++ "dataplane_url = \"\"\nbuild_hash = \"\"\nplugin_version = \"1.1.0\"\n"
    ++ "queue_capacity = 1024\nrequest_timeout_ms = 5000\n\n"
    ++ "[host]\ndiagnostic_id = \"\"\nserver_version = \"\"\n\n"
    ++ "[logging]\nenabled = true\nlevel = \"info\"\nformat = \"text\"\noutput = \"stderr\"\n"
    ++ "file = \"x.log\"\ncolor = true\n\n[logging.modules]\nA = \"debug\"\n"

/-- Both are loaded. The one is not shown, and what the other is shown as comes to another name of
the module. -/
theorem loaded_not_restored :
    (∃ c, load (saved great) (some "c.toml") = .ok c ∧
      ∀ around text, ¬ c.ShownAs (some "c.toml") around text) ∧
    ∃ c, load (saved listed) (some "c.toml") = .ok c ∧
      ∃ around text, c.ShownAs (some "c.toml") around text ∧ ¬ c.redacted.LoadedFrom text := by
  constructor
  · have hload : load (saved great) (some "c.toml") = .ok { bodyCap := 9223372036854775808 } :=
      ok_of_toOption (by decide +kernel)
    refine ⟨_, hload, fun around text hshown => ?_⟩
    have hsigned := (shown_eq_ok.mp (shownAs_iff.mp hshown)).1
    exact absurd hsigned (by decide +kernel)
  · have hload : load (saved listed) (some "c.toml") = .ok listedSettings :=
      ok_of_toOption (by decide +kernel)
    have hsigned : listedSettings.Signed := by decide
    have htext : listedShown = writeDocument (listedSettings.redacted.members .byName) := by
      rw [writeDocument_members (signed_redacted.mpr hsigned)]
      decide +kernel
    have hsorted : Members.Sorted listedSettings.redacted.logging.modules := by decide
    have hread : readDocument listedShown = some (listedSettings.redacted.members .byName) := by
      rw [htext]
      exact readDocument_writeDocument
        (regular_members (signed_redacted.mpr hsigned) hsorted) (by decide)
    have hlower : loadFile (saved listedShown) "c.toml" =
        .ok { logging := { file := "x.log", modules := [("a", "debug")] } } := by
      rw [loadFile_of_find (find_saved listedShown) rfl (read_saved listedShown) hread]
      exact ok_of_toOption (by decide +kernel)
    refine ⟨_, hload, visiting .byName, listedShown,
      shownAs_iff.mpr (shown_eq_ok.mpr ⟨hsigned, htext⟩), fun hback => ?_⟩
    have hsame := Except.ok.inj (hlower.symm.trans (hback _ _ (holds_saved listedShown)))
    exact absurd hsame (by decide)

end Settings

end TelemetryGate
