import TelemetryGate.Program
import Std.Time.DateTime.Timestamp

/-!
# The command line

Gathers what a run finds outside, runs it, and writes what it wrote.  No network is reached from
here: every post finds its endpoint closed.
-/

namespace TelemetryGate.CommandLine

/-! ### gathering -/

def environment : IO Environment := do
  let bytes ← IO.FS.readBinFile "/proc/self/environ"
  let words := bytes.toList.splitOn 0
  return words.filterMap fun word =>
    match Utf8.decode? word with
    | none => none
    | some text =>
      let name := text.toList.takeWhile (· ≠ '=')
      match text.toList.drop name.length with
      | _ :: value => some (String.ofList name, String.ofList value)
      | [] => none

def processNumber : IO Nat := do
  let bytes ← IO.FS.readBinFile "/proc/self/stat"
  return Decimal.ofDigits ((Utf8.decodeLossy bytes.toList).toList.takeWhile Char.isDigit)

/-- Nanoseconds since 1970. -/
def now : IO Int := do
  return (← Std.Time.Timestamp.now).toNanosecondsSinceUnixEpoch.val

def entryAt (path : String) : IO (Option Entry) := do
  let file := (← IO.currentDir) / path
  if ← file.isDir then return some .directory
  if !(← file.pathExists) then return none
  return some (.file (← IO.FS.readBinFile file).toList)

/-- The home of whoever runs this process, as the list of accounts has it. -/
def account : IO (Option Path) := do
  let lines (e : Option Entry) : List (List Char) :=
    match e with
    | some (.file bytes) => (Utf8.decodeLossy bytes).toList.splitOn '\n'
    | _ => []
  let status := lines (← entryAt "/proc/self/status")
  let some numbers := status.find? fun line => "Uid:".toList.isPrefixOf line | return none
  let user := (numbers.drop 5).takeWhile Char.isDigit
  return (lines (← entryAt "/etc/passwd")).findSome? fun line =>
    let parts := line.splitOn ':'
    if parts[2]? = some user then parts[5]?.map String.ofList else none

/-- The files with what stands at a path and on the way to it. -/
def gather (files : FileTree) (path : Path) : IO FileTree := do
  let place := (if path.isAbsolute then [] else files.home) ++ Path.names path
  let mut files := files
  for n in List.range place.length do
    let way := place.take (n + 1)
    match ← entryAt ("/" ++ Path.ofSteps way) with
    | some entry => files := files.set way entry
    | none => files := { files with entries := files.entries.filter (·.1 ≠ way) }
  return files

def settingsPaths (path : Path) : List Path :=
  path :: (Path.parent? path).toList
    ++ FileFormat.all.flatMap fun f => f.endings.filterMap (Path.withEnding? path)

def pathsOf (a : Arguments) (s : Surroundings) : List Path :=
  (Settings.globalPath? s).toList ++ (a.options.config.map settingsPaths).getD []
    ++ match a.command with
      | .track _ (some input) => [input]
      | _ => []

def filesFor (a : Arguments) (s : Surroundings) : IO FileTree := do
  let files ← (pathsOf a s).foldlM gather s.files
  ((a.logging { s with files }).chosenFile? { s with files }).toList.foldlM gather files

/-- The bytes of a stream. -/
partial def readAll (input : IO.FS.Stream) (done : ByteArray) : IO ByteArray := do
  let more ← input.read 65536
  if more.isEmpty then return done
  readAll input (done ++ more)

def outside (a : Arguments) : IO Outside := do
  let home := Path.steps (← IO.currentDir).toString
  let surroundings : Surroundings :=
    { files := { home }, environment := ← environment, account := ← account }
  let files ← filesFor a surroundings
  let input ← match a.command with
    | .track _ none => readAll (← IO.getStdin) .empty
    | _ => pure .empty
  let nanos ← now
  let millis := nanos.fdiv 1000000
  let process ← processNumber
  return {
    surroundings := { surroundings with files }
    input := input.toList
    stamp := Stamp.ofMoment millis process
    network := fun p => .refused p.endpoint
    time := Moment.exactText nanos }

/-! ### writing -/

/-- Writes lines in their order; a log file is opened even if nothing goes there, and directories
are made even if it cannot be. -/
def writeOut (r : Run) : IO Unit := do
  for (place, entry) in r.files.entries.reverse do
    if entry = .directory then IO.FS.createDirAll ("/" ++ Path.ofSteps place)
  let log ← match r.logger.map Logger.channel with
    | some (.file path) => pure (some (← IO.FS.Handle.mk path .append))
    | _ => pure none
  for (channel, line) in r.written.reverse do
    match channel, log with
    | .out, _ => IO.println line
    | .err, _ => IO.eprintln line
    | .file _, some file => file.putStr (line ++ "\n")
    | .file _, none => pure ()

/-! ### watching -/

/-- how many milliseconds pass between two looks at a file that is watched, at least -/
def shortestPause : Nat := 50

/-- Looks at a file again and again, and applies its settings once it has changed and then stayed as
it is for a while. -/
partial def follow (a : Arguments) (v : Watching) (r : Run) : IO Unit := do
  let look (files : FileTree) : Option (List UInt8) := (files.read v.watch.path).toOption
  let pause := (max v.watch.debounceMs shortestPause).toUInt32
  IO.sleep pause
  let first ← outside a
  if look first.surroundings.files = look r.files then follow a v r
  else
    IO.sleep pause
    let w ← outside a
    if look w.surroundings.files = look first.surroundings.files then
      let (v, r) := v.react w { r with files := w.surroundings.files, written := [] }
      writeOut r
      follow a v r
    else follow a v r

end TelemetryGate.CommandLine

def main (words : List String) : IO UInt32 := do
  match TelemetryGate.Arguments.parse words with
  | .error fault =>
    if fault.exitCode = 0 then IO.println TelemetryGate.Arguments.usage
    else IO.eprintln (fault.message ++ "\n\n" ++ TelemetryGate.Arguments.usage)
    return fault.exitCode.toUInt32
  | .ok a =>
    let ended := a.run (← TelemetryGate.CommandLine.outside a)
    TelemetryGate.CommandLine.writeOut ended.run
    match ended.watching with
    | some v => TelemetryGate.CommandLine.follow a v ended.run
    | none => pure ()
    return ended.exit.toUInt32
