import TelemetryGate.Host

/-!
# Submitting the lines of an input

* `Feed`     the bytes of an input, and why there are no more if reading failed;
* `replay`   every line that is not blank, as the body of a submission.
-/

namespace TelemetryGate.Command

/-- The bytes of an input, and why there are no more if reading failed. -/
structure Feed where
  bytes : List UInt8
  failure : Option String := none

/-- The lines of some bytes, the current one standing in `line` in reverse; a carriage return
before the end of a line is no part of it. -/
def linesFrom (line : List UInt8) : List UInt8 → List (List UInt8)
  | [] => if line.isEmpty then [] else [line.reverse]
  | b :: rest =>
    if b = 10 then
      (match line with | 13 :: before => before | _ => line).reverse :: linesFrom [] rest
    else linesFrom (b :: line) rest

def lines (bytes : List UInt8) : List (List UInt8) := linesFrom [] bytes

/-- The lines of an input. A line that reading breaks off in is none. -/
def Feed.lines (feed : Feed) : List (List UInt8) :=
  match feed.failure with
  | none => Command.lines feed.bytes
  | some _ => Command.lines (feed.bytes.reverse.dropWhile (· ≠ 10)).reverse

def target : String := "calls_telemetry::cli::route"

/-- Submits lines one after another, up to one that is no text; the answers stand in front of those
in `acc`, which are in reverse. How things turn out may change from one submission to the next. -/
def submitLines (user : String) (o : Nat → Outcomes) (acc : List Response) (g : Gate) :
    List (List UInt8) → Done Gate (Except HostError (List Response))
  | [] => { answer := .ok acc.reverse, state := g }
  | line :: rest =>
    match Utf8.decode? line with
    | none =>
      { answer := .error (.io "stream did not contain valid UTF-8"), state := g }
    | some text =>
      if Text.isBlankText text then submitLines user o acc g rest
      else
        (g.handle (Body.whole line) user (o acc.length)).andThen fun response g =>
          submitLines user o (response :: acc) g rest

/-- Submits every line of an input that is not blank; the answers, each on its line. -/
def replay (feed : Feed) (user : String) (o : Nat → Outcomes) (g : Gate) :
    Done Gate (Except HostError String) :=
  (submitLines user o [] g feed.lines).andThen fun
    | .error e, g => { answer := .error e, state := g }
    | .ok responses, g =>
      match feed.failure with
      | some reason => { answer := .error (.io reason), state := g }
      | none =>
        { answer := .ok (String.intercalate "\n" (responses.map Response.encode)), state := g
          log := [{ level := .info, target, message := "Replayed track events"
                    fields := [("count", .number responses.length)] }] }

end TelemetryGate.Command
