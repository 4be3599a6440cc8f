import TelemetryGate.Url.Address

/-!
# Urls

* `Url`            the parts of an absolute url;
* `Url.text`       its one spelling;
* `Url.withPath`   the url of a path relative to the last slash of another's.
-/

namespace TelemetryGate

namespace Url

inductive Host where
  | domain (name : String)
  | v4 (address : Nat)
  | v6 (pieces : List Nat)
deriving DecidableEq

/-- A path is a list of segments, each after a slash, or a text without structure. -/
inductive Path where
  | segments (parts : List String)
  | plain (text : String)
deriving DecidableEq

inductive Error where
  | relative
  | emptyHost
  | port
  | v4
  | v6
  | domain
  | hostCharacter
deriving DecidableEq, Repr

def Error.message : Error → String
  | relative => "relative URL without a base"
  | emptyHost => "empty host"
  | port => "invalid port number"
  | v4 => "invalid IPv4 address"
  | v6 => "invalid IPv6 address"
  | domain => "invalid international domain name"
  | hostCharacter => "invalid domain character"

def Host.text : Host → String
  | domain name => name
  | v4 n => v4Text n
  | v6 ps => "[" ++ v6Text ps ++ "]"

def Path.text : Path → String
  | segments parts => String.join (parts.map fun s => "/" ++ s)
  | plain text => text

end Url

/-- An absolute url, its parts in their one spelling. -/
structure Url where
  scheme : String
  /-- a name and a password, apart by a colon; empty if there is none -/
  user : String := ""
  host : Option Url.Host := none
  port : Option Nat := none
  path : Url.Path
  query : Option String := none
  fragment : Option String := none
deriving DecidableEq

namespace Url

def impliedPort? (scheme : String) : Option Nat :=
  if scheme = "http" || scheme = "ws" then some 80
  else if scheme = "https" || scheme = "wss" then some 443
  else if scheme = "ftp" then some 21
  else none

/-- Whether a scheme's urls always have a host and a path of segments. -/
def isSpecial (scheme : String) : Bool := (impliedPort? scheme).isSome || scheme = "file"

/-- who is spoken to: name, host and port -/
def authority (u : Url) : String :=
  match u.host with
  | none => ""
  | some h =>
    "//" ++ (if u.user = "" then "" else u.user ++ "@") ++ h.text
      ++ (match u.port with | some p => ":" ++ toString p | none => "")

def target (u : Url) : String :=
  u.path.text ++ (match u.query with | some q => "?" ++ q | none => "")

def text (u : Url) : String :=
  u.scheme ++ ":" ++ u.authority ++ u.target
    ++ (match u.fragment with | some f => "#" ++ f | none => "")

/-- The url of a path that is relative to the last slash of another's. -/
def withPath (u : Url) (parts : List String) : Url :=
  { u with
    path := .segments ((match u.path with | .segments ps => ps.dropLast | .plain _ => []) ++ parts)
    query := none
    fragment := none }

end Url

end TelemetryGate
