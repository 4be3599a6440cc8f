import TelemetryGate.Log.Directive
import TelemetryGate.Settings
import TelemetryGate.Setting.Source

/-!
# Which records are logged

Of the directives that concern a record, the most specific one decides; of two that are equally
specific, the later.

* `LogFilter.admits`          whether a record is logged;
* `LogFilter.ofText?`         the filter that a list of directives spells;
* `LogFilter.ofLevel`         the same, passing over what is no directive;
* `LogFilter.ofSettings`      the filter that settings and variables make.
-/

namespace TelemetryGate

/-- Directives in the order in which they were given. -/
structure LogFilter where
  directives : List Directive := []

inductive FilterFault where
  /-- a module in the settings -/
  | settings (f : DirectiveFault)
  /-- a module in the variable -/
  | environment (f : DirectiveFault)
deriving DecidableEq

def FilterFault.message : FilterFault → String
  | settings f => "Invalid log directive: " ++ f.message
  | environment f => "Invalid log directive from env: " ++ f.message

namespace LogFilter

/-! ### what passes -/

/-- the more specific one of two directives, the first of which may be missing -/
def better (best : Option Directive) (d : Directive) : Option Directive :=
  match best with
  | some b => some (if b.orUpTo d then d else b)
  | none => some d

/-- The directive that decides about a record, if one concerns it. -/
def deciding? (f : LogFilter) (r : LogRecord) : Option Directive :=
  (f.directives.filter (·.concerns r)).foldl better none

def admits (f : LogFilter) (r : LogRecord) : Bool :=
  (f.deciding? r).any fun d => d.limit.admits r.level

/-! ### lists of directives -/

/-- the parts of a text between commas, without empty ones -/
def parts (s : String) : List String :=
  ((s.toList.splitOn ',').filter (!·.isEmpty)).map String.ofList

/-- The filter that a list of directives spells, if each of them is one. -/
def ofText? (s : String) : Option LogFilter :=
  ((parts s).mapM Directive.parse).toOption.map fun ds => ⟨ds⟩

def passedOver (part : String) (f : DirectiveFault) : String :=
  "ignoring `" ++ part ++ "`: " ++ f.message

/-- The filter that a list of directives spells, and what is said of parts that are none. Where
there is no directive, errors pass. -/
def ofLevel (s : String) : LogFilter × List String :=
  let ds := (parts s).filterMap fun part => (Directive.parse part).toOption
  let notes := (parts s).filterMap fun part => match Directive.parse part with
    | .ok _ => none
    | .error f => some (passedOver part f)
  (⟨if ds.isEmpty then [{ limit := some .error }] else ds⟩, notes)

def extend (texts : List String) (f : LogFilter) : Except DirectiveFault LogFilter :=
  (texts.mapM Directive.parse).map fun ds => ⟨f.directives ++ ds⟩

/-! ### settings and variables -/

def listVariable : String := "CALLS_TELEMETRY_LOG"

def modulesVariable : String := "CALLS_TELEMETRY_LOG_MODULES"

/-- The directives of modules in a text such as `module=level,module=level`; a part that is not made
like that is passed over. -/
def moduleTexts (s : String) : List String :=
  (s.toList.splitOn ',').filterMap fun part =>
    match part.splitOn '=' with
    | [name, level] =>
      some (Text.trim (String.ofList name) ++ "=" ++ Text.trim (String.ofList level))
    | _ => none

/-- A filter with the directives of modules: those of the settings, then those of the variable. -/
def ofModules (t : Members.Traversal String) (settings : LogSettings) (env : Environment)
    (f : LogFilter) : Except FilterFault LogFilter :=
  match f.extend ((t.visit settings.modules).map fun (name, level) => name ++ "=" ++ level) with
  | .error e => .error (.settings e)
  | .ok f => (f.extend (moduleTexts ((env.get? modulesVariable).getD ""))).mapError .environment

/-- The filter that settings and variables make, and what is said on the way. A list in its variable
goes first if each part of it is a directive; the level `off` leaves no room for modules. -/
def ofSettings (t : Members.Traversal String) (settings : LogSettings) (env : Environment) :
    Except FilterFault LogFilter × List String :=
  match (env.get? listVariable).bind ofText? with
  | some f => (.ok f, [])
  | none =>
    let (f, notes) := ofLevel settings.level
    (if settings.level = "off" then .ok f else ofModules t settings env f, notes)

end LogFilter

end TelemetryGate
