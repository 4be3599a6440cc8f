import TelemetryGate.Program
import TelemetryGate.Proofs.FileTree
import TelemetryGate.Proofs.Log.Level

/-!
# What logging is set up with

Options stand over settings, and variables over both for the format and the output.

* `LogFormat.name`, `LogOutput.name`   the names that are known;
* `FileTree.kept_openLog`     opening a log file loses nothing, whether or not it can be opened;
* `LogOutput.Opens`           where records of an output go, and the files after that;
* `CommonOptions.level`, `formatName`, `outputName`, `filePath`   what is chosen;
* `CommonOptions.SetUp`       what setting up comes to, by what is chosen;
* `CommonOptions.setUp_start` it does.
-/

namespace TelemetryGate

/-! ### names -/

def LogFormat.name : LogFormat → String
  | text => "text"
  | json => "json"

def LogOutput.name : LogOutput → String
  | out => "stdout"
  | err => "stderr"
  | file => "file"

theorem LogFormat.ofName?_eq_some_iff {n : String} {f : LogFormat} :
    ofName? n = some f ↔ n = f.name := by
  unfold ofName?
  constructor
  · intro h
    split at h
    · cases h
      assumption
    · split at h
      · cases h
        assumption
      · cases h
  · rintro rfl
    cases f <;> rfl

theorem LogOutput.ofName?_eq_some_iff {n : String} {o : LogOutput} :
    ofName? n = some o ↔ n = o.name := by
  unfold ofName?
  constructor
  · intro h
    split at h
    · cases h
      assumption
    · split at h
      · cases h
        assumption
      · split at h
        · cases h
          assumption
        · cases h
  · rintro rfl
    cases o <;> rfl

theorem LogFormat.ofName?_eq_none_iff {n : String} :
    ofName? n = none ↔ ∀ f : LogFormat, n ≠ f.name := by
  rw [Option.eq_none_iff_forall_ne_some]
  exact forall_congr' fun f => not_congr ofName?_eq_some_iff

theorem LogFormat.name_injective {f g : LogFormat} (h : f.name = g.name) : f = g :=
  Option.some.inj ((ofName?_eq_some_iff.mpr rfl).symm.trans (ofName?_eq_some_iff.mpr h))

theorem LogOutput.ofName?_eq_none_iff {n : String} :
    ofName? n = none ↔ ∀ o : LogOutput, n ≠ o.name := by
  rw [Option.eq_none_iff_forall_ne_some]
  exact forall_congr' fun o => not_congr ofName?_eq_some_iff

/-! ### a log file -/

namespace FileTree

variable {t t' : FileTree} {p : Path}

theorem kept_openLog (t : FileTree) (p : Path) : t.Kept (t.openLog p).2 := by
  have hmade : t.Kept ((Path.parent? p).elim { files := t } t.makeDirs).files := by
    cases Path.parent? p with
    | none => exact .refl t
    | some dir => exact kept_makeDirs t dir
  unfold openLog
  dsimp only
  split
  · exact hmade
  · split
    · exact hmade
    · next files hopened => exact hmade.trans (kept_append hopened)

/-- A log file that could be opened is there. -/
theorem isFile_openLog (h : t.openLog p = (none, t')) : t'.isFile p = true := by
  unfold openLog at h
  dsimp only at h
  split at h
  · cases h
  · split at h
    · cases h
    · next files hopened =>
      cases h
      exact isFile_append hopened

end FileTree

/-- Where records of an output go, and the files after its file is opened; if it cannot be opened,
directories that were made on the way stay. -/
inductive LogOutput.Opens (path : Option Path) (t : FileTree) :
    LogOutput → Except LogFault Channel → FileTree → Prop where
  | out : Opens path t .out (.ok .out) t
  | err : Opens path t .err (.ok .err) t
  | nowhere (h : path = none) : Opens path t .file (.error .nowhere) t
  | file {p : Path} {t' : FileTree} (h : path = some p) (opened : t.openLog p = (none, t')) :
    Opens path t .file (.ok (.file p)) t'
  | failed {p : Path} {t' : FileTree} {fault : LogFault} (h : path = some p)
    (failed : t.openLog p = (some fault, t')) : Opens path t .file (.error fault) t'

namespace LogOutput

variable {path : Option Path} {t t' : FileTree} {output : LogOutput}
  {channel : Except LogFault Channel}

theorem opens_channel (path : Option Path) (t : FileTree) (output : LogOutput) :
    output.Opens path t (output.channel path t).1 (output.channel path t).2 := by
  cases output with
  | out => exact .out
  | err => exact .err
  | file =>
    cases path with
    | none => exact .nowhere rfl
    | some p =>
      have hchannel : LogOutput.file.channel (some p) t =
          ((t.openLog p).1.elim (.ok (.file p)) .error, (t.openLog p).2) := rfl
      rw [hchannel]
      rcases hopened : t.openLog p with ⟨fault, t'⟩
      cases fault with
      | none => exact .file rfl hopened
      | some fault => exact .failed rfl hopened

theorem Opens.kept (h : output.Opens path t channel t') : t.Kept t' := by
  cases h with
  | out => exact .refl t
  | err => exact .refl t
  | nowhere _ => exact .refl t
  | @file p t' _ opened =>
    have hkept := t.kept_openLog p
    rwa [opened] at hkept
  | @failed p t' fault _ failed =>
    have hkept := t.kept_openLog p
    rwa [failed] at hkept

theorem Opens.isFile {p : Path} (h : output.Opens path t (.ok (.file p)) t') :
    path = some p ∧ t'.isFile p = true := by
  cases h with
  | file hpath opened => exact ⟨hpath, FileTree.isFile_openLog opened⟩

end LogOutput

namespace CommonOptions

/-! ### choices -/

section
variable (o : CommonOptions) (loaded : LogSettings)

/-- Something is to be logged: the options do not silence it and the settings do not forbid it. -/
def Heard : Prop := o.quiet = false ∧ loaded.enabled = true

/-- The level: the option, else the one of verbose logging if that is wanted, else the setting. -/
def level : String :=
  (o.logLevel <|> if o.verbose then some "debug" else none).getD loaded.level

/-- The name of the format: the variable if it names one, else the option, else the setting. -/
def formatName (env : Environment) : String :=
  ((env.get? LogSettings.formatVariable).filter (fun n => n = "json" || n = "text")
    <|> o.logFormat).getD loaded.format

/-- The name of the output: the variable whatever it says, else the option, else the setting. -/
def outputName (env : Environment) : String :=
  (env.get? LogSettings.outputVariable <|> o.logOutput).getD loaded.output

/-- The log file: the option, else the setting, else where logs go, if the user has a home. -/
def filePath (s : Surroundings) : Option Path :=
  (o.logFile <|> loaded.file).or (Settings.logPath? s)

/-- The filter that options, settings and variables make. -/
def filter (s : Surroundings) : Except FilterFault LogFilter :=
  (LogFilter.ofSettings s.traversal (o.logging loaded) s.environment).1

/-- The texts of the directives of modules; the level `off` leaves no room for any. -/
def moduleTexts (s : Surroundings) : List String :=
  if o.level loaded = "off" then []
  else LogFilter.allModuleTexts s.traversal loaded s.environment

/-- What setting up comes to, by what is chosen; `busy` says whether another logger is at work. -/
structure SetUp (busy : Bool) (s : Surroundings) (start : LogStart) : Prop where
  /-- what is not to be logged is not looked at -/
  silent : o.quiet = true ∨ loaded.enabled = false →
    start = { logger := .ok none, files := s.files }
  /-- the list in its variable is the filter if each part of it is a directive, -/
  listed : ∀ f, (s.environment.get? LogFilter.listVariable).bind LogFilter.ofText? = some f →
    o.filter loaded s = .ok f
  /-- and otherwise the level makes it, with the modules of the settings and their variable: -/
  levelled : (s.environment.get? LogFilter.listVariable).bind LogFilter.ofText? = none →
    o.filter loaded s =
      if o.level loaded = "off" then .ok (LogFilter.ofLevel (o.level loaded)).1
      else LogFilter.ofModules s.traversal loaded s.environment
        (LogFilter.ofLevel (o.level loaded)).1
  /-- records that no module's directive concerns pass up to the limit that the level spells -/
  limited : (s.environment.get? LogFilter.listVariable).bind LogFilter.ofText? = none →
    ∀ limit, Limit.ofText? (o.level loaded) = some limit →
    (o.level loaded).toList.head? ≠ some '+' → ∀ f, o.filter loaded s = .ok f →
    ∃ ds, (o.moduleTexts loaded s).mapM Directive.parse = .ok ds ∧
      ∀ r, f.admits r =
        (((⟨ds⟩ : LogFilter).deciding? r).elim limit Directive.limit).admits r.level
  /-- of several faults the filter's is told first, then the format's, then the output's -/
  unfiltered : o.Heard loaded → ∀ fault, o.filter loaded s = .error fault →
    start.logger = .error (.filter fault)
  unformatted : o.Heard loaded → ∀ f, o.filter loaded s = .ok f →
    (∀ format : LogFormat, o.formatName loaded s.environment ≠ format.name) →
    start.logger = .error (.format (o.formatName loaded s.environment))
  undirected : o.Heard loaded → ∀ f, o.filter loaded s = .ok f →
    ∀ format : LogFormat, o.formatName loaded s.environment = format.name →
    (∀ output : LogOutput, o.outputName loaded s.environment ≠ output.name) →
    start.logger = .error (.output (o.outputName loaded s.environment))
  /-- with any of these faults no file and no directory is made -/
  untouched : o.Heard loaded → (∃ fault, o.filter loaded s = .error fault) ∨
      (∀ format : LogFormat, o.formatName loaded s.environment ≠ format.name) ∨
      (∀ output : LogOutput, o.outputName loaded s.environment ≠ output.name) →
    (∃ fault, start.logger = .error fault) ∧ start.files = s.files
  /-- without a fault, records go where they are to go if that can be opened -/
  directed : o.Heard loaded → ∀ f, o.filter loaded s = .ok f →
    ∀ format : LogFormat, o.formatName loaded s.environment = format.name →
    ∀ output : LogOutput, o.outputName loaded s.environment = output.name →
    ∃ channel, output.Opens (o.filePath loaded s) s.files channel start.files ∧
      start.logger = channel.bind fun channel => if busy then .error .taken else
        .ok (some ⟨f, format, loaded.color && output ≠ .file, channel⟩)
  /-- nothing that stood anywhere is lost, whatever setting up comes to -/
  kept : s.files.Kept start.files
  /-- the file that records go to is the one that is chosen, and it is there -/
  opened : ∀ logger p, start.logger = .ok (some logger) → logger.channel = .file p →
    o.filePath loaded s = some p ∧ start.files.isFile p = true

end

variable {o : CommonOptions} {loaded : LogSettings} {busy : Bool} {s : Surroundings}
  {env : Environment}

/-! ### options over settings -/

theorem logging_level : (o.logging loaded).level = o.level loaded := by
  show o.logLevel.getD (if o.verbose then "debug" else loaded.level) =
    (o.logLevel <|> if o.verbose then some "debug" else none).getD loaded.level
  cases o.logLevel with
  | some l => rfl
  | none => cases o.verbose <;> rfl

theorem logging_file : (o.logging loaded).chosenFile? s = o.filePath loaded s := rfl

theorem formatName_of_named {f : LogFormat}
    (h : env.get? LogSettings.formatVariable = some f.name) : o.formatName loaded env = f.name := by
  unfold formatName
  rw [h]
  cases f <;> rfl

/-- A variable that names no format is as good as none. -/
theorem formatName_of_unnamed
    (h : (env.get? LogSettings.formatVariable).bind LogFormat.ofName? = none) :
    o.formatName loaded env = (o.logging loaded).format := by
  unfold formatName
  cases hv : env.get? LogSettings.formatVariable with
  | none => rfl
  | some n =>
    rw [hv] at h
    have hnone := LogFormat.ofName?_eq_none_iff.mp h
    have hpass : (some n).filter (fun n => n = "json" || n = "text") = none := by
      rw [Option.filter_eq_none_iff]
      rintro m hm
      cases hm
      simpa using ⟨hnone .json, hnone .text⟩
    rw [hpass]
    rfl

theorem chosenFormat_of_named {f : LogFormat} (h : o.formatName loaded env = f.name) :
    (o.logging loaded).chosenFormat env = .ok f := by
  unfold LogSettings.chosenFormat
  cases hv : (env.get? LogSettings.formatVariable).bind LogFormat.ofName? with
  | some g =>
    obtain ⟨n, hn, hg⟩ := Option.bind_eq_some_iff.mp hv
    rw [LogFormat.ofName?_eq_some_iff.mp hg] at hn
    rw [formatName_of_named hn] at h
    rw [LogFormat.name_injective h]
  | none =>
    rw [formatName_of_unnamed hv] at h
    simp only [LogFormat.ofName?_eq_some_iff.mpr h]

theorem chosenFormat_of_unnamed (h : ∀ f : LogFormat, o.formatName loaded env ≠ f.name) :
    (o.logging loaded).chosenFormat env = .error (.format (o.formatName loaded env)) := by
  unfold LogSettings.chosenFormat
  cases hv : (env.get? LogSettings.formatVariable).bind LogFormat.ofName? with
  | some g =>
    obtain ⟨n, hn, hg⟩ := Option.bind_eq_some_iff.mp hv
    rw [LogFormat.ofName?_eq_some_iff.mp hg] at hn
    exact absurd (formatName_of_named hn) (h g)
  | none =>
    rw [formatName_of_unnamed hv] at h ⊢
    simp only [LogFormat.ofName?_eq_none_iff.mpr h]

theorem outputName_eq : (env.get? LogSettings.outputVariable).getD (o.logging loaded).output =
    o.outputName loaded env := by
  unfold outputName
  cases env.get? LogSettings.outputVariable <;> rfl

theorem chosenOutput_of_named {output : LogOutput} (h : o.outputName loaded env = output.name) :
    (o.logging loaded).chosenOutput env = .ok output := by
  unfold LogSettings.chosenOutput
  rw [outputName_eq]
  simp only [LogOutput.ofName?_eq_some_iff.mpr h]

theorem chosenOutput_of_unnamed (h : ∀ output : LogOutput, o.outputName loaded env ≠ output.name) :
    (o.logging loaded).chosenOutput env = .error (.output (o.outputName loaded env)) := by
  unfold LogSettings.chosenOutput
  rw [outputName_eq]
  simp only [LogOutput.ofName?_eq_none_iff.mpr h]

/-! ### setting up -/

theorem start_of_silent (h : o.quiet = true ∨ loaded.enabled = false) :
    (o.logging loaded).start busy s = { logger := .ok none, files := s.files } := by
  have hoff : (o.logging loaded).enabled = false := by
    show (loaded.enabled && !o.quiet) = false
    rcases h with h | h <;> simp [h]
  unfold LogSettings.start
  rw [hoff]
  rfl

theorem enabled_of_heard (h : o.Heard loaded) : (o.logging loaded).enabled = true := by
  show (loaded.enabled && !o.quiet) = true
  rw [h.1, h.2]
  rfl

/-- A plan that has a fault is told, and nothing is opened. -/
theorem start_of_fault (busy : Bool) (h : o.Heard loaded) {fault : LogFault}
    (hplan : ((o.logging loaded).plan s.traversal s.environment).1 = .error fault) :
    ((o.logging loaded).start busy s).logger = .error fault ∧
      ((o.logging loaded).start busy s).files = s.files := by
  unfold LogSettings.start
  rw [enabled_of_heard h]
  generalize (o.logging loaded).plan s.traversal s.environment = planned at hplan
  obtain ⟨plan, notes⟩ := planned
  cases hplan
  exact ⟨rfl, rfl⟩

/-- A plan that has none is carried out. -/
theorem start_of_plan (busy : Bool) (h : o.Heard loaded) {plan : LogPlan}
    (hplan : ((o.logging loaded).plan s.traversal s.environment).1 = .ok plan) :
    ∃ channel, plan.output.Opens (o.filePath loaded s) s.files channel
        ((o.logging loaded).start busy s).files ∧
      ((o.logging loaded).start busy s).logger =
        channel.bind fun channel => if busy then .error .taken else
          .ok (some ⟨plan.filter, plan.format, loaded.color && plan.output ≠ .file, channel⟩) := by
  unfold LogSettings.start
  rw [enabled_of_heard h, logging_file]
  generalize (o.logging loaded).plan s.traversal s.environment = planned at hplan
  obtain ⟨outcome, notes⟩ := planned
  cases hplan
  dsimp only
  have hopens := LogOutput.opens_channel (o.filePath loaded s) s.files plan.output
  generalize plan.output.channel (o.filePath loaded s) s.files = opened at hopens
  obtain ⟨channel, files⟩ := opened
  refine ⟨channel, ?_⟩
  cases channel with
  | error fault => exact ⟨hopens, rfl⟩
  | ok channel => exact ⟨hopens, rfl⟩

/-! ### the plan -/

theorem plan_eq : ((o.logging loaded).plan s.traversal s.environment).1 =
    match o.filter loaded s with
    | .error f => .error (.filter f)
    | .ok filter =>
      match (o.logging loaded).chosenFormat s.environment with
      | .error f => .error f
      | .ok format =>
        ((o.logging loaded).chosenOutput s.environment).map
          fun output => ⟨filter, format, output⟩ := rfl

theorem plan_of_unfiltered {fault : FilterFault} (h : o.filter loaded s = .error fault) :
    ((o.logging loaded).plan s.traversal s.environment).1 = .error (.filter fault) := by
  rw [plan_eq, h]

section
variable {f : LogFilter} (h : o.filter loaded s = .ok f)
include h

theorem plan_of_unformatted
    (hf : ∀ format : LogFormat, o.formatName loaded s.environment ≠ format.name) :
    ((o.logging loaded).plan s.traversal s.environment).1 =
      .error (.format (o.formatName loaded s.environment)) := by
  rw [plan_eq, h, chosenFormat_of_unnamed hf]

variable {format : LogFormat} (hf : o.formatName loaded s.environment = format.name)
include hf

theorem plan_of_undirected
    (ho : ∀ output : LogOutput, o.outputName loaded s.environment ≠ output.name) :
    ((o.logging loaded).plan s.traversal s.environment).1 =
      .error (.output (o.outputName loaded s.environment)) := by
  rw [plan_eq, h, chosenFormat_of_named hf, chosenOutput_of_unnamed ho]
  rfl

theorem plan_of_named {output : LogOutput} (ho : o.outputName loaded s.environment = output.name) :
    ((o.logging loaded).plan s.traversal s.environment).1 = .ok ⟨f, format, output⟩ := by
  rw [plan_eq, h, chosenFormat_of_named hf, chosenOutput_of_named ho]
  rfl

end

/-- A fault of any kind is one of the plan. -/
theorem exists_plan_fault (h : (∃ fault, o.filter loaded s = .error fault) ∨
    (∀ format : LogFormat, o.formatName loaded s.environment ≠ format.name) ∨
    (∀ output : LogOutput, o.outputName loaded s.environment ≠ output.name)) :
    ∃ fault, ((o.logging loaded).plan s.traversal s.environment).1 = .error fault := by
  cases hfilter : o.filter loaded s with
  | error fault => exact ⟨_, plan_of_unfiltered hfilter⟩
  | ok f =>
    by_cases hformat : ∀ format : LogFormat, o.formatName loaded s.environment ≠ format.name
    · exact ⟨_, plan_of_unformatted hfilter hformat⟩
    obtain ⟨format, hf⟩ := Classical.not_forall.mp hformat
    refine ⟨_, plan_of_undirected hfilter (Classical.not_not.mp hf) ?_⟩
    rcases h with ⟨fault, h⟩ | h | h
    · cases hfilter.symm.trans h
    · exact absurd h hformat
    · exact h

/-! ### the filter -/

theorem filter_of_unlisted
    (h : (s.environment.get? LogFilter.listVariable).bind LogFilter.ofText? = none) :
    o.filter loaded s =
      if o.level loaded = "off" then .ok (LogFilter.ofLevel (o.level loaded)).1
      else LogFilter.ofModules s.traversal loaded s.environment
        (LogFilter.ofLevel (o.level loaded)).1 := by
  unfold filter LogFilter.ofSettings
  rw [h, logging_level]
  rfl

theorem limited (h : (s.environment.get? LogFilter.listVariable).bind LogFilter.ofText? = none)
    (limit : Limit) (hlimit : Limit.ofText? (o.level loaded) = some limit)
    (hplus : (o.level loaded).toList.head? ≠ some '+') (f : LogFilter)
    (hf : o.filter loaded s = .ok f) :
    ∃ ds, (o.moduleTexts loaded s).mapM Directive.parse = .ok ds ∧
      ∀ r, f.admits r =
        (((⟨ds⟩ : LogFilter).deciding? r).elim limit Directive.limit).admits r.level := by
  rw [filter_of_unlisted h, LogFilter.ofLevel_of_limit hlimit hplus] at hf
  unfold moduleTexts
  split at hf
  · next hoff =>
    cases hf
    rw [if_pos hoff]
    exact ⟨[], rfl, LogFilter.admits_cons limit []⟩
  · next hoff =>
    obtain ⟨ds, hds, rfl⟩ := LogFilter.ofModules_eq_ok hf
    rw [if_neg hoff]
    exact ⟨ds, hds, LogFilter.admits_cons limit ds⟩

/-! ### the files -/

/-- What setting up comes to is told by what is opened, if anything is. -/
theorem start_cases (o : CommonOptions) (loaded : LogSettings) (busy : Bool) (s : Surroundings) :
    ((o.logging loaded).start busy s).files = s.files ∧
      (∀ logger, ((o.logging loaded).start busy s).logger ≠ .ok (some logger)) ∨
    ∃ output channel, LogOutput.Opens (o.filePath loaded s) s.files output channel
        ((o.logging loaded).start busy s).files ∧
      ∀ logger, ((o.logging loaded).start busy s).logger = .ok (some logger) →
        channel = .ok logger.channel := by
  by_cases hsilent : o.quiet = true ∨ loaded.enabled = false
  · rw [start_of_silent hsilent]
    exact .inl ⟨rfl, fun logger h => nomatch h⟩
  have hon : o.Heard loaded := by
    rw [not_or, Bool.not_eq_true, Bool.not_eq_false] at hsilent
    exact hsilent
  cases hplan : ((o.logging loaded).plan s.traversal s.environment).1 with
  | error fault =>
    obtain ⟨hlogger, hfiles⟩ := start_of_fault busy hon hplan
    refine .inl ⟨hfiles, fun logger h => ?_⟩
    cases hlogger.symm.trans h
  | ok plan =>
    obtain ⟨channel, hopens, hlogger⟩ := start_of_plan busy hon hplan
    refine .inr ⟨_, channel, hopens, fun logger h => ?_⟩
    rw [hlogger] at h
    cases channel with
    | error fault => cases h
    | ok channel =>
      cases busy with
      | true => cases h
      | false =>
        cases h
        rfl

theorem kept_start : s.files.Kept ((o.logging loaded).start busy s).files := by
  rcases start_cases o loaded busy s with
    ⟨hfiles, _⟩ | ⟨output, channel, hopens, _⟩
  · rw [hfiles]
    exact .refl s.files
  · exact hopens.kept

theorem start_opened {logger : Logger} {p : Path}
    (h : ((o.logging loaded).start busy s).logger = .ok (some logger))
    (hp : logger.channel = .file p) :
    o.filePath loaded s = some p ∧ ((o.logging loaded).start busy s).files.isFile p = true := by
  rcases start_cases o loaded busy s with
    ⟨_, hnone⟩ | ⟨output, channel, hopens, hchannel⟩
  · exact absurd h (hnone logger)
  · rw [hchannel logger h, hp] at hopens
    exact hopens.isFile

/-- **However options, settings and variables are combined, what is not to be logged is not looked
at; else the variable goes before the option and the option before the setting, where the variable
of the format counts if it names one and that of the output whatever it says.** A name that is none
is a fault before any file is made. -/
theorem setUp_start (o : CommonOptions) (loaded : LogSettings) (busy : Bool) (s : Surroundings) :
    SetUp o loaded busy s ((o.logging loaded).start busy s) where
  silent := start_of_silent
  listed f h := by
    unfold filter LogFilter.ofSettings
    rw [h]
  levelled := filter_of_unlisted
  limited := limited
  unfiltered hon fault h := (start_of_fault busy hon (plan_of_unfiltered h)).1
  unformatted hon f h hf := (start_of_fault busy hon (plan_of_unformatted h hf)).1
  undirected hon f h format hf ho := (start_of_fault busy hon (plan_of_undirected h hf ho)).1
  untouched hon h := by
    obtain ⟨fault, hplan⟩ := exists_plan_fault h
    obtain ⟨hlogger, hfiles⟩ := start_of_fault busy hon hplan
    exact ⟨⟨fault, hlogger⟩, hfiles⟩
  directed hon f h format hf output ho := start_of_plan busy hon (plan_of_named h hf ho)
  kept := kept_start
  opened logger p := start_opened

/-- A format that is none is passed over in its variable, an output is not. -/
example : ((({ logFormat := some "json" } : CommonOptions).logging { format := "xml" }).start false
    { files := { home := [], entries := [] }
      environment := [(LogSettings.formatVariable, "yaml"), (LogSettings.outputVariable, "both")] }
    ).logger = .error (.output "both") := by
  rfl

end CommonOptions

end TelemetryGate
