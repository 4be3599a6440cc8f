import TelemetryGate.Gate
import TelemetryGate.Settings

/-!
# What a host calls

* `Response`              the answer to a submission;
* `Gate.handle`           a submission, answered;
* `Gate.applySettings`    new settings: the cap of a body, and whether events are reported.
-/

namespace TelemetryGate

structure Response where
  code : Nat := 0
  msg : Option String := none
  err : Option String := none
deriving DecidableEq

namespace Response

def accepted : Nat := 200

def badRequest : Nat := 400

def success : Response := ⟨accepted, some "success", none⟩

def refusal (reason : String) : Response := ⟨badRequest, none, some reason⟩

def isSuccess (r : Response) : Bool := r.code = accepted

def form : Form Kind Kind.El Response where
  name := "ApiResponse"
  blank := {}
  slots :=
    [{ name := "code", required := true, kind := .short
       store := fun v r => { r with code := v } },
     { name := "msg", kind := .optional .text, store := fun v r => { r with msg := v } },
     { name := "err", kind := .optional .text, store := fun v r => { r with err := v } }]

def decode (bytes : List UInt8) : Except Json.Fault Response :=
  Json.readWhole (Json.readRecord Json.readKind form Json.maxDepth) bytes

/-- The text of an answer; what it has none of is left out. -/
def encode (r : Response) : String :=
  Json.record (
    [("code", toString r.code)]
      ++ (r.msg.map fun s => ("msg", Json.quote s)).toList
      ++ (r.err.map fun s => ("err", Json.quote s)).toList)

end Response

namespace Gate

def hostTarget : String := "calls_telemetry::api"

def answerRecord (actor : String) : Except Rejection String → LogRecord
  | .ok event =>
    { level := .debug, target := hostTarget, message := "track event accepted"
      fields := [("handler", .quoted "handleTrackEvent"), ("code", .number Response.accepted),
        ("event", .plain event), ("user_id", .plain actor)] }
  | .error reason =>
    { level := .warn, target := hostTarget, message := "track event rejected"
      fields := [("handler", .quoted "handleTrackEvent"), ("code", .number Response.badRequest),
        ("user_id", .plain actor), ("reason", .plain reason.message)] }

def respond : Except Rejection String → Response
  | .ok _ => .success
  | .error reason => .refusal reason.message

def handle (body : Body) (actor : String) (o : Outcomes) (g : Gate) : Done Gate Response :=
  (g.ingest body actor o).andThen fun verdict g =>
    { answer := respond verdict, state := g, log := [answerRecord actor verdict] }

/-- Applies new settings: the cap unless it is zero, then whether events are reported. The live
client stays as it is if they still are. -/
def applySettings (s : Settings) (o : Outcomes) (g : Gate) :
    Done Gate (Except LifecycleError Unit) :=
  let toggle (g : Gate) : Done Gate (Except LifecycleError Unit) :=
    g.onManager (Manager.setEnabled s.reports s.clientConfig o)
  if s.bodyCap = 0 then
    (toggle g).after
      [{ level := .warn, target := hostTarget, message := "ignoring zero request body cap"
         fields := [("current", .number g.cap)] }]
  else toggle { g with cap := s.bodyCap }

end Gate

end TelemetryGate
