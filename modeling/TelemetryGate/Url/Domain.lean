import TelemetryGate.Url.Domain.Characters
import TelemetryGate.Url.Domain.Direction
import TelemetryGate.Url.Domain.Joiners
import TelemetryGate.Url.Punycode
import TelemetryGate.Text.Composed

/-!
# Domain names

A name is brought to one spelling (lower case, compatibility characters replaced, marks put
together) and its labels beyond ASCII are written with ASCII characters.

* `spelling?`   the one spelling of a name;
* `meaning?`    what a label means;
* `toAscii?`    a name in ASCII.
-/

namespace TelemetryGate.Url.Domain

open Text

def isAscii (c : Char) : Bool := c.toNat < 128

/-- The ASCII characters that no name may hold. -/
def isForbidden (c : Char) : Bool :=
  c.toNat ≤ 0x20 || c.toNat = 0x7F || "%#/:<>?@[\\]^|".toList.contains c

def spell? (c : Char) : Option (List Char) :=
  if isAscii c then some [c.toLower] else inPlaceOf? c

def spelling? (name : List Char) : Option (List Char) :=
  (name.mapM spell?).map fun parts =>
    let cs := parts.flatten
    if cs.all isAscii then cs else compose cs

def isValidLabel (label : List Char) : Bool :=
  label.all (fun c => spell? c = some [c]) && compose label = label
    && !(label.head?.map isMark).getD false && joinersHold [] label

/-- What a label means: one that is marked as such stands for a label beyond ASCII, which must have
it as its written form. -/
def meaning? (label : List Char) : Option (List Char) :=
  match label with
  | 'x' :: 'n' :: '-' :: '-' :: rest =>
    if !label.all isAscii then none
    else
      match Punycode.decode? rest with
      | some meaning =>
        if !meaning.all isAscii && isValidLabel meaning && Punycode.encode meaning = rest then
          some meaning
        else none
      | none => none
  | _ => if label.all isAscii || isValidLabel label then some label else none

def inAscii (meaning : List Char) : List Char :=
  if meaning.all isAscii then meaning else ['x', 'n', '-', '-'] ++ Punycode.encode meaning

def toAscii? (name : List Char) : Option (List Char) :=
  match spelling? name with
  | none => none
  | some cs =>
    match (cs.splitOn '.').mapM meaning? with
    | none => none
    | some meanings =>
      let ascii := ['.'].intercalate (meanings.map inAscii)
      if !readsOneWay meanings || ascii.any isForbidden then none else some ascii

end TelemetryGate.Url.Domain
