import TelemetryGate.Command.Execute
import TelemetryGate.Delivery.Sink
import TelemetryGate.Program.Run

/-!
# The program

A run sets up logging, loads the settings, carries out a command and says how it went.  Clients post
what they are told while that happens.

* `CommonOptions.logging`   the log settings that options leave;
* `Outside`                 what a run finds outside;
* `Ended`                   what it comes to;
* `Arguments.run`           a run;
* `Watching.react`          what follows when a watched file changes.
-/

namespace TelemetryGate

/-! ### options over settings -/

def CommonOptions.logging (o : CommonOptions) (loaded : LogSettings) : LogSettings :=
  { loaded with
    enabled := loaded.enabled && !o.quiet
    level := o.logLevel.getD (if o.verbose then "debug" else loaded.level)
    format := o.logFormat.getD loaded.format
    output := o.logOutput.getD loaded.output
    file := o.logFile <|> loaded.file }

/-- The log settings of a run: those of the settings that load, else what they are unless said
otherwise, under the options. -/
def Arguments.logging (a : Arguments) (s : Surroundings) : LogSettings :=
  a.options.logging (match Settings.load s a.options.config with
    | .ok settings => settings.logging
    | .error _ => {})

/-! ### outside -/

/-- What a run finds outside: files and variables, an input, a stamp for each message, the answer to
each post, and what time it is. -/
structure Outside where
  surroundings : Surroundings
  input : List UInt8 := []
  stamp : Nat → Stamp
  network : Post → Reply
  time : String

def Outside.deliver (w : Outside) (settings : Settings) (calls : List ClientCall)
    (d : Deliveries) : Deliveries :=
  d.ofCalls settings.sink.queueCapacity w.stamp w.network calls

def Settings.outcomes (s : Settings) : Outcomes := Sink.outcomes s.sink.queueCapacity

/-- A run that goes on watching: the file, the settings it started with, and the gate. -/
structure Watching where
  watch : Watch
  settings : Settings
  gate : Gate

/-- What a run comes to: what it wrote, how it ends, what was posted, and what it goes on watching
if it does. -/
structure Ended where
  run : Run
  exit : Nat
  posts : List Post := []
  watching : Option Watching := none

namespace Program

def target : String := "calls_telemetry"

def said (level : Level) (message : String) : LogRecord := { level, target, message }

/-- The end of a run that failed: the error is logged and reported. -/
def fail (time what : String) (e : HostError) (posts : List Post) (r : Run) : Ended where
  run := (r.log time [said .error (what ++ ": " ++ e.message)]).write .err [e.report]
  exit := 1
  posts

/-- Carries out the command of a job; a client that is still there at the end is closed. -/
def carryOut (w : Outside) (job : Job) (c : Command) (r : Run) : Ended :=
  let o := job.settings.outcomes
  let done := job.execute { w.surroundings with files := r.files } w.input o c job.gate
  let sent := w.deliver job.settings done.calls {}
  let r := r.log w.time (done.log ++ sent.log)
  match done.answer with
  | .error e => fail w.time "Command failed" e sent.posts r
  | .ok (.watching watch) =>
    { run := r, exit := 0, posts := sent.posts, watching := some ⟨watch, job.settings, done.state⟩ }
  | .ok (.text text) =>
    let last := done.state.manager.shutDown o
    let final := w.deliver job.settings last.calls { sent with log := [] }
    { run := ((r.log w.time [said .info "Command completed successfully"]).write .out [text]).log
        w.time (last.log ++ final.log)
      exit := 0
      posts := final.posts }

def work (w : Outside) (a : Arguments) (r : Run) : Ended :=
  let s := { w.surroundings with files := r.files }
  let r := r.log w.time (Settings.loadLog s)
  match Job.load s a.options.config with
  | .error e => fail w.time "Error loading configuration" e [] r
  | .ok job => carryOut w job a.command r

end Program

/-- A run: logging is set up, then the work is done. -/
def Arguments.run (a : Arguments) (w : Outside) : Ended :=
  let start := (a.logging w.surroundings).start false w.surroundings
  let r := Run.write .err start.notes { files := start.files }
  match start.logger with
  | .error f =>
    { run := r.write .err ["Failed to initialize logging: " ++ f.error.message], exit := 1 }
  | .ok logger =>
    Program.work w a
      (({ r with logger }).log w.time [Program.said .info "Calls telemetry starting"])

/-- What follows when a watched file changes: its settings are applied. -/
def Watching.react (v : Watching) (w : Outside) (r : Run) : Watching × Run :=
  let done := v.watch.refresh { w.surroundings with files := r.files } v.settings.outcomes v.gate
  let sent := w.deliver v.settings done.calls {}
  ({ v with gate := done.state }, r.log w.time (done.log ++ sent.log))

end TelemetryGate
