/-!
# Stamps of messages

* `MessageId`       tells a message from every other: when, by which process, the how manieth;
* `MessageCounter`  the number that a process gives its next message;
* `Moment.text`     a moment in milliseconds since 1970, as date and time of day;
* `Moment.exactText`   a moment in nanoseconds, as precise as it is.
-/

namespace TelemetryGate

/-- When a message was made, by which process, and the how manieth of that process it is. -/
structure MessageId where
  millis : Int
  process : Nat
  number : Nat
deriving DecidableEq

namespace MessageId

/-- An id of a clock, a process and a counter as they are kept. -/
def ofWords (millis : Int64) (process : UInt32) (number : UInt64) : MessageId :=
  ⟨millis.toInt, process.toNat, number.toNat⟩

def text (i : MessageId) : String := s!"msg-{i.millis}-{i.process}-{i.number}"

end MessageId

/-- The number that a process gives its next message, in a word that goes round. -/
structure MessageCounter where
  next : UInt64 := 1
deriving DecidableEq

namespace MessageCounter

def advance (c : MessageCounter) : MessageCounter := ⟨c.next + 1⟩

/-- The counter when so many numbers are given away. -/
def after (n : Nat) : MessageCounter := ⟨UInt64.ofNat (n + 1)⟩

theorem after_zero : after 0 = {} := rfl

theorem after_succ (n : Nat) : after (n + 1) = (after n).advance :=
  congrArg mk (UInt64.ofNat_add (n + 1) 1)

end MessageCounter

namespace Moment

def padded (width n : Nat) : String :=
  let ds := Nat.toDigits 10 n
  String.ofList (List.replicate (width - ds.length) '0' ++ ds)

/-- The year, month and day of a day counted from 1970, in the calendar that has a leap day every
fourth year but for three centuries in four. Years are counted from March, so that the leap day is
the last. -/
def civil (day : Int) : Int × Nat × Nat :=
  let z := day + 719468
  let era := z.fdiv 146097
  let dayOfEra := (z - era * 146097).toNat
  let yearOfEra := (dayOfEra - dayOfEra / 1460 + dayOfEra / 36524 - dayOfEra / 146096) / 365
  let dayOfYear := dayOfEra - (365 * yearOfEra + yearOfEra / 4 - yearOfEra / 100)
  let m := (5 * dayOfYear + 2) / 153
  let month := if m < 10 then m + 3 else m - 9
  let year : Int := yearOfEra + era * 400 + (if month ≤ 2 then 1 else 0)
  (year, month, dayOfYear - (153 * m + 2) / 5 + 1)

def dateTime (millis : Int) : String :=
  let day := millis.fdiv 86400000
  let ofDay := (millis - day * 86400000).toNat
  let (y, m, d) := civil day
  padded 4 y.toNat ++ "-" ++ padded 2 m ++ "-" ++ padded 2 d ++ "T"
    ++ padded 2 (ofDay / 3600000) ++ ":" ++ padded 2 (ofDay / 60000 % 60) ++ ":"
    ++ padded 2 (ofDay / 1000 % 60)

/-- A moment with milliseconds, in universal time. -/
def text (millis : Int) : String :=
  dateTime millis ++ "." ++ padded 3 (millis.fmod 1000).toNat ++ "Z"

/-- A moment given in nanoseconds, in universal time, with an offset in hours and minutes. The part
of a second has as many groups of three digits as it needs. -/
def exactText (nanos : Int) : String :=
  let part := (nanos.fmod 1000000000).toNat
  dateTime (nanos.fdiv 1000000)
    ++ (if part = 0 then ""
      else if part % 1000000 = 0 then "." ++ padded 3 (part / 1000000)
      else if part % 1000 = 0 then "." ++ padded 6 (part / 1000)
      else "." ++ padded 9 part)
    ++ "+00:00"

end Moment

end TelemetryGate
