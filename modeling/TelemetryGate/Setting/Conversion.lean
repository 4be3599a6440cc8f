import TelemetryGate.Form
import TelemetryGate.Setting
import TelemetryGate.Decimal.Reading

/-!
# Records from layered settings

A setting is turned into the kind that is wanted: texts that say so into flags and numbers, flags
and numbers into texts.

* `SettingFault`       why a setting cannot be taken;
* `Setting.toKind`     the value of a slot;
* `Setting.toRecord`   a record, from a table or a list.
-/

namespace TelemetryGate

inductive SettingFault where
  /-- it has no value of the kind that is wanted; `steps` lead to it -/
  | unfit (steps : List Step) (found : Found) (wanted : String) (origin : Option String)
  /-- it has not the shape of a record -/
  | shape (m : Mismatch)

namespace SettingFault

/-- What stands there, with the width of whole numbers. -/
def describe : Found → String
  | .whole n => s!"64-bit integer `{n}`"
  | f => f.describe "unit value" Decimal.plainForm

def message : SettingFault → String
  | unfit steps found wanted origin =>
    "invalid type: " ++ describe found ++ ", expected " ++ wanted
      ++ (if steps.isEmpty then "" else " for key `" ++ Step.textOf steps ++ "`")
      ++ (match origin with | some o => " in " ++ o | none => "")
  | shape m => m.describe "unit value" Decimal.pointedForm

/-- the fault, seen from a step further out -/
def under (step : Step) : SettingFault → SettingFault
  | unfit steps found wanted origin => unfit (step :: steps) found wanted origin
  | shape m => shape m

end SettingFault

namespace Setting

def found : Setting → Found
  | single .nothing _ => .nothing
  | single (.flag b) _ => .flag b
  | single (.whole n) _ => .whole n
  | single (.real x) _ => .real x
  | single (.text s) _ => .text s
  | list _ _ => .list
  | table _ _ => .map

def origin : Setting → Option String
  | single _ o | list _ o | table _ o => o

def unfit {α : Type} (s : Setting) (wanted : String) : Except SettingFault α :=
  .error (.unfit [] s.found wanted s.origin)

def toText : Setting → Except SettingFault String
  | single (.text s) _ => .ok s
  | single (.flag b) _ => .ok (if b then "true" else "false")
  | single (.whole n) _ => .ok (toString n)
  | single (.real x) _ => .ok (Decimal.plainForm.write x)
  | s => s.unfit "a string"

/-- Whether a setting says yes; numbers do unless they are zero. -/
def toFlag : Setting → Except SettingFault Bool
  | single (.flag b) _ => .ok b
  | single (.whole n) _ => .ok (n ≠ 0)
  | single (.real x) _ => .ok (x != 0)
  | single (.text s) o =>
    let word := Text.lower s
    if ["1", "true", "on", "yes"].contains word then .ok true
    else if ["0", "false", "off", "no"].contains word then .ok false
    else .error (.unfit [] (.text word) "a boolean" o)
  | s => s.unfit "a boolean"

/-- the number that a text spells, if it fits a word without a sign -/
def wordOf? (s : String) : Option Nat :=
  let digits := match s.toList with
    | '+' :: rest => rest
    | cs => cs
  (Decimal.readDigits? digits).filter (· ≤ Word.most)

/-- The number of a setting, none below zero; doubles are rounded. -/
def toWhole : Setting → Except SettingFault Nat
  | single (.whole n) o =>
    if 0 ≤ n then .ok n.toNat
    else .error (.unfit [] (.whole n) "an unsigned 64 bit or less integer" o)
  | single (.flag b) _ => .ok b.toNat
  | single (.real x) _ => .ok (Decimal.roundHalfUp Word.most x)
  | single (.text s) o =>
    let word := Text.lower s
    if ["true", "on", "yes"].contains word then .ok 1
    else if ["false", "off", "no"].contains word then .ok 0
    else
      match wordOf? s with
      | some n => .ok n
      | none => (single (.text s) o).unfit "an integer"
  | s => s.unfit "an integer"

def toTexts : List (String × Setting) → Except SettingFault (Members String)
  | [] => .ok []
  | (name, s) :: rest =>
    match s.toText with
    | .error f => .error (f.under (.name name))
    | .ok v => (toTexts rest).map fun ms => (name, v) :: ms

mutual

def toJson : Setting → Json
  | single .nothing _ => .null
  | single (.flag b) _ => .flag b
  | single (.whole n) _ => .whole n
  | single (.real x) _ => .real x
  | single (.text s) _ => .text s
  | list vs _ => .list (itemsToJson vs)
  | table ms _ => .object (membersToJson ms)

def itemsToJson : List Setting → List Json
  | [] => []
  | v :: rest => v.toJson :: itemsToJson rest

def membersToJson : List (String × Setting) → List (String × Json)
  | [] => []
  | (name, v) :: rest => (name, v.toJson) :: membersToJson rest

end

def toKind : (k : Kind) → Setting → Except SettingFault k.El
  | .text, s => s.toText
  | .path, s => s.toText
  | .flag, s => s.toFlag
  | .whole limit wanted, s =>
    s.toWhole.bind fun n =>
      if n ≤ limit then .ok n else .error (.shape (.range (.whole n) wanted))
  | .texts, table ms _ => toTexts ms
  | .properties, table ms _ => .ok (membersToJson ms)
  | .texts, s => .error (.shape (.kind s.found "a map"))
  | .properties, s => .error (.shape (.kind s.found "a map"))
  | .optional _, single .nothing _ => .ok none
  | .optional k, s => (toKind k s).map some
  | .textOrEmpty, single .nothing _ => .ok ""
  | .textOrEmpty, s => s.toText

variable {κ : Type} {El : κ → Type} {ρ : Type}

/-- A record from a table or a list; items beyond its slots count for nothing. -/
def toRecord (convert : (k : κ) → Setting → Except SettingFault (El k)) (form : Form κ El ρ) :
    Setting → Except SettingFault ρ
  | table ms _ =>
    form.fillMembers .shape
      (fun name k s => (convert k s).mapError (SettingFault.under (.name name)))
      [] form.blank ms
  | list vs _ =>
    (Form.fillItems .shape
      (fun n k s => (convert k s).mapError (SettingFault.under (.index n)))
      form.wantedLength 0 form.blank form.slots vs).map (·.1)
  | s => .error (.shape (.kind s.found form.wanted))

end Setting

end TelemetryGate
