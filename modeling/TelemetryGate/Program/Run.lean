import TelemetryGate.Log.Setup

/-!
# What a run writes

* `Run`          the files, the logger, and the lines written so far;
* `Run.write`    lines on a channel, and in the file behind it;
* `Run.log`      records, as far as the logger takes them;
* `Run.linesOn`  the lines of a channel.
-/

namespace TelemetryGate

/-- The files, the logger if there is one, and the lines written so far, the last one first. -/
structure Run where
  files : FileTree
  logger : Option Logger := none
  written : List (Channel × String) := []

namespace Run

def bytesOf (lines : List String) : List UInt8 :=
  Utf8.encode (String.join (lines.map fun l => l ++ "\n"))

/-- The files with lines after those of the file behind a channel. -/
def filesWith (channel : Channel) (lines : List String) (files : FileTree) : FileTree :=
  match channel with
  | .file path => ((files.append (bytesOf lines) path).toOption).getD files
  | _ => files

def write (channel : Channel) (lines : List String) (r : Run) : Run :=
  { r with
    files := filesWith channel lines r.files
    written := (lines.map fun l => (channel, l)).reverse ++ r.written }

def log (time : String) (records : List LogRecord) (r : Run) : Run :=
  match r.logger with
  | none => r
  | some l => r.write l.channel (records.filterMap (l.line? time))

def linesOn (channel : Channel) (r : Run) : List String :=
  (r.written.reverse.filter (·.1 = channel)).map Prod.snd

theorem linesOn_write (channel : Channel) (lines : List String) (r : Run) :
    (r.write channel lines).linesOn channel = r.linesOn channel ++ lines := by
  simp [linesOn, write, List.filter_map, Function.comp_def]

theorem linesOn_write_of_ne {channel other : Channel} (h : other ≠ channel) (lines : List String)
    (r : Run) : (r.write other lines).linesOn channel = r.linesOn channel := by
  simp [linesOn, write, List.filter_map, Function.comp_def, h]

end Run

end TelemetryGate
