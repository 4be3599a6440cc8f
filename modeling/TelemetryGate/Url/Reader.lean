import TelemetryGate.Url
import TelemetryGate.Url.Domain
import TelemetryGate.Text.Utf8

/-!
# Reading urls

Controls and spaces at either end are dropped, tabs and line ends anywhere.  A backslash counts as
a slash where the scheme is special.

* `encodeText`   percent-encoding;
* `readHost`     a host;
* `readPath`     the segments of a path, dots resolved;
* `Url.parse`    an absolute url.
-/

namespace TelemetryGate.Url

/-! ### percent-encoding -/

def upperHex (n : Nat) : Char := if n < 10 then Char.ofNat (48 + n) else Char.ofNat (55 + n)

/-- A character as it is, or its bytes in base sixteen if it is in the set. -/
def encodeChar (inSet : Char → Bool) (c : Char) : List Char :=
  if inSet c then
    (Utf8.encode c.toString).flatMap fun b =>
      ['%', upperHex (b.toNat / 16), upperHex (b.toNat % 16)]
  else [c]

def encodeText (inSet : Char → Bool) (cs : List Char) : String :=
  String.ofList (cs.flatMap (encodeChar inSet))

/-- controls and all beyond ASCII -/
def isControl (c : Char) : Bool := c.toNat < 0x20 || 0x7E < c.toNat

def inFragment (c : Char) : Bool := isControl c || [' ', '"', '<', '>', '`'].contains c

def inQuery (special : Bool) (c : Char) : Bool :=
  isControl c || [' ', '"', '#', '<', '>'].contains c || (special && c = '\'')

def inPath (c : Char) : Bool := inFragment c || ['#', '?', '^', '\x7b', '\x7d'].contains c

def inUser (c : Char) : Bool :=
  inPath c || ['/', ':', ';', '=', '@', '[', '\\', ']', '|'].contains c

def decodeBytes : List UInt8 → List UInt8
  | 37 :: a :: b :: rest =>
    match Text.hexValue? (Char.ofNat a.toNat), Text.hexValue? (Char.ofNat b.toNat) with
    | some x, some y => (16 * x + y).toUInt8 :: decodeBytes rest
    | _, _ => 37 :: decodeBytes (a :: b :: rest)
  | a :: rest => a :: decodeBytes rest
  | [] => []

/-! ### hosts -/

/-- what no host of another scheme may hold -/
def isHostDelimiter (c : Char) : Bool :=
  c.toNat = 0 || ['\t', '\n', '\r', ' ', '#', '/', ':', '<', '>', '?', '@', '[', '\\', ']', '^',
    '|'].contains c

def readBracketed (cs : List Char) : Except Error Host :=
  if cs.getLast? = some ']' then
    match readV6? cs.tail.dropLast with
    | some ps => .ok (.v6 ps)
    | none => .error .v6
  else .error .v6

/-- A host: an address, or a domain name where the scheme is special. -/
def readHost (special : Bool) (cs : List Char) : Except Error Host :=
  if cs.head? = some '[' then readBracketed cs
  else if special then
    match (Utf8.decode? (decodeBytes (Utf8.encode (String.ofList cs)))).bind fun s =>
        Domain.toAscii? s.toList with
    | none => .error .domain
    | some [] => .error .emptyHost
    | some name =>
      if endsInNumber name then
        match readV4? name with
        | some n => .ok (.v4 n)
        | none => .error .v4
      else .ok (.domain (String.ofList name))
  else if cs.any isHostDelimiter then .error .hostCharacter
  else .ok (.domain (encodeText isControl cs))

/-- A port; none if no digit stands there or if the scheme implies it. -/
def readPort (scheme : String) (cs : List Char) : Except Error (Option Nat) :=
  let ds := cs.takeWhile Char.isDigit
  let rest := cs.drop ds.length
  let n := ds.foldl (fun n c => 10 * n + (c.toNat - 48)) 0
  if 65535 < n then .error .port
  else if !rest.isEmpty && rest.head? ≠ some '\\' then .error .port
  else if ds.isEmpty || impliedPort? scheme = some n then .ok none
  else .ok (some n)

/-- the host before its port: up to the first colon outside brackets -/
def takeHost (inside : Bool) : List Char → List Char
  | [] => []
  | c :: rest =>
    if c = ':' && !inside then []
    else c :: takeHost (if c = '[' then true else if c = ']' then false else inside) rest

def userText (cs : List Char) : String :=
  let name := cs.takeWhile (· ≠ ':')
  let password := cs.drop (name.length + 1)
  encodeText inUser name ++ (if password.isEmpty then "" else ":" ++ encodeText inUser password)

/-- What stands before the last at-sign, if there is one, and what stands after it. -/
def splitUser (cs : List Char) : Option (List Char) × List Char :=
  let after := (cs.reverse.takeWhile (· ≠ '@')).reverse
  if after.length = cs.length then (none, cs)
  else (some (cs.take (cs.length - after.length - 1)), after)

/-- Who is spoken to: name, host and port. -/
def readAuthority (scheme : String) (cs : List Char) :
    Except Error (String × Option Host × Option Nat) := do
  let (user, rest) := splitUser cs
  let hostPart := takeHost false rest
  let portPart := rest.drop hostPart.length
  if hostPart.isEmpty then
    if isSpecial scheme || !portPart.isEmpty || user.isSome then throw .emptyHost
    return ("", some (.domain ""), none)
  let host ← readHost (isSpecial scheme) hostPart
  let port ← if portPart.isEmpty then pure none else readPort scheme portPart.tail
  return (userText (user.getD []), some host, port)

/-! ### paths -/

def isDot (s : List Char) : Bool :=
  ["." , "%2e"].contains (String.ofList (s.map Char.toLower))

def isDoubleDot (s : List Char) : Bool :=
  ["..", ".%2e", "%2e.", "%2e%2e"].contains (String.ofList (s.map Char.toLower))

/-- The segments of a path, dots resolved, after those in `done`, which are in reverse. -/
def resolve (done : List String) : List (List Char) → List String
  | [] => done.reverse
  | s :: rest =>
    let done :=
      if isDoubleDot s then
        if rest.isEmpty then "" :: done.tail else done.tail
      else if isDot s then
        if rest.isEmpty then "" :: done else done
      else encodeText inPath s :: done
    resolve done rest

def readPath (special : Bool) (cs : List Char) : List String :=
  let isSlash (c : Char) : Bool := c = '/' || (special && c = '\\')
  let rest := if (cs.head?.map isSlash).getD false then cs.tail else cs
  resolve [] (rest.splitOnP isSlash)

/-- What stands before a query or a fragment, the query and the fragment. -/
def splitTail (special : Bool) (cs : List Char) : List Char × Option String × Option String :=
  let front := cs.takeWhile fun c => c ≠ '?' && c ≠ '#'
  let rest := cs.drop front.length
  let fragment (r : List Char) : Option String :=
    match r with
    | _ :: f => some (encodeText inFragment f)
    | [] => none
  match rest with
  | '?' :: more =>
    let q := more.takeWhile (· ≠ '#')
    (front, some (encodeText (inQuery special) q), fragment (more.drop q.length))
  | r => (front, none, fragment r)

/-! ### urls -/

def isSchemeChar (c : Char) : Bool := c.isAlphanum || c = '+' || c = '-' || c = '.'

/-- The scheme, in lower case, and what follows its colon. -/
def readScheme? (cs : List Char) : Option (String × List Char) :=
  let name := cs.takeWhile isSchemeChar
  match name, cs.drop name.length with
  | c :: _, ':' :: rest =>
    if c.isAlpha then some (String.ofList (name.map Char.toLower), rest) else none
  | _, _ => none

/-- drops controls and spaces at either end, tabs and line ends anywhere -/
def clean (s : String) : List Char :=
  let isEdge (c : Char) : Bool := c.toNat ≤ 0x20
  let cs := s.toList.dropWhile isEdge
  let cs := (cs.reverse.dropWhile isEdge).reverse
  cs.filter fun c => !(['\t', '\n', '\r'].contains c)

/-- What follows two slashes: who is spoken to, and a path. -/
def readHierarchy (scheme : String) (cs : List Char) : Except Error Url := do
  let special := isSpecial scheme
  let isEnd (c : Char) : Bool := c = '/' || c = '?' || c = '#' || (special && c = '\\')
  let who := cs.takeWhile fun c => !isEnd c
  let (user, host, port) ← readAuthority scheme who
  let (path, query, fragment) := splitTail special (cs.drop who.length)
  let parts := if path.isEmpty && !special then [] else readPath special path
  return { scheme, user, host, port, path := .segments parts, query, fragment }

/-- What follows `file:`; a host may be missing. -/
def readFile (cs : List Char) : Except Error Url := do
  let isSlash (c : Char) : Bool := c = '/' || c = '\\'
  let slashes := (cs.takeWhile isSlash).length
  let rest := if 2 ≤ slashes then cs.drop 2 else cs
  let hostPart := if 2 ≤ slashes then rest.takeWhile fun c => !(isSlash c || c = '?' || c = '#')
    else []
  let isDrive := match hostPart with
    | [c, d] => c.isAlpha && (d = ':' || d = '|')
    | _ => false
  let host ← if hostPart.isEmpty || isDrive then pure none
    else (readHost true hostPart).map some
  let (path, query, fragment) :=
    splitTail true (if isDrive then rest else rest.drop hostPart.length)
  return { scheme := "file", host, path := .segments (readPath true path), query, fragment }

def parse (s : String) : Except Error Url :=
  match readScheme? (clean s) with
  | none => .error .relative
  | some (scheme, rest) =>
    if scheme = "file" then readFile rest
    else if isSpecial scheme then
      readHierarchy scheme (rest.dropWhile fun c => c = '/' || c = '\\')
    else
      match rest with
      | '/' :: '/' :: more => readHierarchy scheme more
      | _ =>
        let (path, query, fragment) := splitTail false rest
        let path := if path.head? = some '/' then .segments (readPath false path)
          else .plain (encodeText isControl path)
        .ok { scheme, path, query, fragment }

end TelemetryGate.Url
