import TelemetryGate.Log
import TelemetryGate.Settings
import TelemetryGate.Text.Base64

/-!
# Posting to a dataplane

* `Endpoint.ofDataplane`   where the messages of a dataplane go;
* `Post`                   a message on its way;
* `Reply`                  what comes back;
* `Reply.record`           what is logged of it.
-/

namespace TelemetryGate

namespace Endpoint

def path : List String := ["v1", "track"]

def trimSlashes (s : String) : String :=
  String.ofList (s.toList.reverse.dropWhile (· = '/')).reverse

/-- Where the messages of a dataplane go. -/
def ofDataplane (url : String) : Except ClientFault Url :=
  match Url.parse (trimSlashes url ++ "/") with
  | .error e => .error (.badUrl url e)
  | .ok base => .ok (base.withPath path)

end Endpoint

structure Post where
  endpoint : Url
  writeKey : String
  body : String

namespace Post

def line (p : Post) : String := "POST " ++ p.endpoint.target ++ " HTTP/1.1"

/-- who sends: the key as a name, without a password -/
def authorization (p : Post) : String := "Basic " ++ Base64.encode (Utf8.encode (p.writeKey ++ ":"))

def contentType : String := "application/json"

end Post

inductive Reply where
  | status (code : Nat)
  | failure (reason : String)
deriving DecidableEq

namespace Reply

def reason? : Nat → Option String
  | 100 => some "Continue"
  | 101 => some "Switching Protocols"
  | 102 => some "Processing"
  | 200 => some "OK"
  | 201 => some "Created"
  | 202 => some "Accepted"
  | 203 => some "Non Authoritative Information"
  | 204 => some "No Content"
  | 205 => some "Reset Content"
  | 206 => some "Partial Content"
  | 207 => some "Multi-Status"
  | 208 => some "Already Reported"
  | 226 => some "IM Used"
  | 300 => some "Multiple Choices"
  | 301 => some "Moved Permanently"
  | 302 => some "Found"
  | 303 => some "See Other"
  | 304 => some "Not Modified"
  | 305 => some "Use Proxy"
  | 307 => some "Temporary Redirect"
  | 308 => some "Permanent Redirect"
  | 400 => some "Bad Request"
  | 401 => some "Unauthorized"
  | 402 => some "Payment Required"
  | 403 => some "Forbidden"
  | 404 => some "Not Found"
  | 405 => some "Method Not Allowed"
  | 406 => some "Not Acceptable"
  | 407 => some "Proxy Authentication Required"
  | 408 => some "Request Timeout"
  | 409 => some "Conflict"
  | 410 => some "Gone"
  | 411 => some "Length Required"
  | 412 => some "Precondition Failed"
  | 413 => some "Payload Too Large"
  | 414 => some "URI Too Long"
  | 415 => some "Unsupported Media Type"
  | 416 => some "Range Not Satisfiable"
  | 417 => some "Expectation Failed"
  | 418 => some "I'm a teapot"
  | 421 => some "Misdirected Request"
  | 422 => some "Unprocessable Entity"
  | 423 => some "Locked"
  | 424 => some "Failed Dependency"
  | 426 => some "Upgrade Required"
  | 428 => some "Precondition Required"
  | 429 => some "Too Many Requests"
  | 431 => some "Request Header Fields Too Large"
  | 451 => some "Unavailable For Legal Reasons"
  | 500 => some "Internal Server Error"
  | 501 => some "Not Implemented"
  | 502 => some "Bad Gateway"
  | 503 => some "Service Unavailable"
  | 504 => some "Gateway Timeout"
  | 505 => some "HTTP Version Not Supported"
  | 506 => some "Variant Also Negotiates"
  | 507 => some "Insufficient Storage"
  | 508 => some "Loop Detected"
  | 510 => some "Not Extended"
  | 511 => some "Network Authentication Required"
  | _ => none

def statusText (code : Nat) : String :=
  s!"{code} " ++ (reason? code).getD "<unknown status code>"

/-- whether a status says that the message was taken -/
def isSuccess (code : Nat) : Bool := 200 ≤ code && code < 300

def target : String := "calls_telemetry::telemetry::sinks::http"

def record : Reply → LogRecord
  | status code =>
    if isSuccess code then
      { level := .debug, target, message := "telemetry event delivered"
        fields := [("status", .plain (statusText code))] }
    else
      { level := .warn, target, message := "telemetry endpoint rejected event"
        fields := [("status", .plain (statusText code))] }
  | failure reason =>
    { level := .warn, target, message := "telemetry delivery failed"
      fields := [("error", .plain reason)] }

/-- What is logged when the worker has nothing more to do. -/
def stopped : LogRecord :=
  { level := .debug, target, message := "telemetry delivery worker stopped" }

/-- The reply when nobody listens at a place. -/
def refused (endpoint : Url) : Reply :=
  .failure ("error sending request for url (" ++ endpoint.text
    ++ "): error trying to connect: tcp connect error: Connection refused (os error 111)")

end Reply

end TelemetryGate
