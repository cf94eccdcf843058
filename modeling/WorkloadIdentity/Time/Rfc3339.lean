/-
  WorkloadIdentity.Time.Rfc3339 ──── **TIMESTAMPS OF RFC 3339.**

  A timestamp is read field by field; then the fields are checked against the calendar.  **RULE**:
  second 60 is accepted only where a leap second can be, in the last minute of a month in universal
  time, and stands for the last nanosecond before it.

  ✓ `Timestamp.parse`      — fields and their checks
  ✓ `Timestamp.unixNanos`  — the instant in nanoseconds since the epoch
  ✓ `Timestamp.unixMillis` — in milliseconds, cut toward zero
-/
import WorkloadIdentity.Text.Digits
import WorkloadIdentity.Text.Utf8
import WorkloadIdentity.Time.Millis

namespace WorkloadIdentity

/-! ## §1. Errors. -/

/-- Why a text is no timestamp. -/
inductive TimestampError where
  /-- A field is not there. -/
  | component (name : String)
  /-- A dash or colon is not there. -/
  | literal
  /-- Something follows. -/
  | trailing
  /-- A field is out of its range; the range may come with a remark. -/
  | range (name : String) (least greatest : Int) (remark : Option String)
  deriving DecidableEq

/-- The wording of an error. -/
def TimestampError.message : TimestampError → String
  | .component name => "the '" ++ name ++ "' component could not be parsed"
  | .literal => "a character literal was not valid"
  | .trailing => "unexpected trailing characters; the end of input was expected"
  | .range name least greatest remark =>
    name ++ " must be in the range " ++ String.ofList (Text.signedDecimal least) ++ "..=" ++
      String.ofList (Text.signedDecimal greatest) ++
      (match remark with
      | none => ""
      | some text => " " ++ text)

/-! ## §2. The calendar. -/

/-- A day of the Gregorian calendar. -/
structure Date where
  /-- The year. -/
  year : Nat
  /-- The month, from one. -/
  month : Nat
  /-- The day, from one. -/
  day : Nat
  deriving DecidableEq

/-- Whether a year has a 29th of February. -/
def isLeapYear (year : Nat) : Bool := year % 4 == 0 && (year % 100 != 0 || year % 400 == 0)

/-- How many days a month has. -/
def daysInMonth (year month : Nat) : Nat :=
  if month = 2 then if isLeapYear year then 29 else 28
  else if month = 4 ∨ month = 6 ∨ month = 9 ∨ month = 11 then 30
  else 31

/-- The days of a year before a month. -/
def daysBeforeMonth (year month : Nat) : Nat :=
  (List.range (month - 1)).foldl (fun days m => days + daysInMonth year (m + 1)) 0

/-- The days before a year, counted from the first day of year one. -/
def daysBeforeYear (year : Nat) : Int :=
  let y : Int := (year : Int) - 1
  365 * y + y / 4 - y / 100 + y / 400

/-- The day of the epoch, counted from the first day of year one. -/
def epochDay : Int := 719162

/-- The days from the epoch to a date. -/
def Date.unixDay (d : Date) : Int :=
  daysBeforeYear d.year + daysBeforeMonth d.year d.month + (d.day - 1 : Nat) - epochDay

/-- The first day of the month after that of a date. -/
def Date.nextMonth (d : Date) : Date :=
  if d.month = 12 then ⟨d.year + 1, 1, 1⟩ else ⟨d.year, d.month + 1, 1⟩

/-! ## §3. Timestamps. -/

/-- A timestamp: date, time of day, and the minutes by which its place is ahead of universal
time. -/
structure Timestamp where
  /-- The date. -/
  date : Date
  /-- The hour. -/
  hour : Nat
  /-- The minute. -/
  minute : Nat
  /-- The second. -/
  second : Nat
  /-- The nanoseconds within the second. -/
  nanos : Nat
  /-- The minutes ahead of universal time. -/
  offset : Int
  deriving DecidableEq

/-- The instant in whole seconds since the epoch. -/
def Timestamp.unixSeconds (t : Timestamp) : Int :=
  t.date.unixDay * 86400 + (t.hour * 3600 + t.minute * 60 + t.second : Nat) - t.offset * 60

/-- The instant in nanoseconds since the epoch. -/
def Timestamp.unixNanos (t : Timestamp) : Int := t.unixSeconds * 1000000000 + t.nanos

/-- **The instant in milliseconds since the epoch**, cut toward zero; an instant beyond the range
counts as the latest one. -/
def Timestamp.unixMillis (t : Timestamp) : Int :=
  let n := Int.tdiv t.unixNanos 1000000
  if Millis.least ≤ n ∧ n ≤ Millis.greatest then n else Millis.greatest

/-! ## §4. Fields. -/

namespace Timestamp

/-- A number of exactly so many digits at the head of a byte list. -/
def fixedDigits : Nat → Nat → List UInt8 → Option (Nat × List UInt8)
  | 0, acc, rest => some (acc, rest)
  | _ + 1, _, [] => none
  | n + 1, acc, b :: rest =>
    match Text.digitValue? b with
    | none => none
    | some d => fixedDigits n (acc * 10 + d) rest

/-- A named number of so many digits. -/
def field (name : String) (size : Nat) (input : List UInt8) :
    Except TimestampError (Nat × List UInt8) :=
  match fixedDigits size 0 input with
  | none => .error (.component name)
  | some r => .ok r

/-- The rest after a byte that must come next. -/
def literal (mark : UInt8) : List UInt8 → Except TimestampError (List UInt8)
  | [] => .error .literal
  | b :: rest => if b = mark then .ok rest else .error .literal

/-- The rest after one byte that is no digit. -/
def separator : List UInt8 → Except TimestampError (List UInt8)
  | [] => .error (.component "separator")
  | b :: rest => if Text.isDigit b then .error (.component "separator") else .ok rest

/-- Nanoseconds from the digits of a fraction; those after the ninth count nothing. -/
def fractionDigits (weight acc : Nat) : List UInt8 → Nat × List UInt8
  | [] => (acc, [])
  | b :: rest =>
    match Text.digitValue? b with
    | none => (acc, b :: rest)
    | some d => fractionDigits (weight / 10) (acc + d * weight) rest

/-- The fraction of a second, if there is one. -/
def subsecond (input : List UInt8) : Except TimestampError (Nat × List UInt8) :=
  match input with
  | 46 :: b :: rest =>
    if Text.isDigit b then .ok (fractionDigits 100000000 0 (b :: rest))
    else .error (.component "subsecond")
  | [46] => .error (.component "subsecond")
  | _ => .ok (0, input)

/-- The minutes ahead of universal time. -/
def zoneOffset (input : List UInt8) : Except TimestampError (Int × List UInt8) :=
  match input with
  | [] => .error (.component "offset hour")
  | b :: rest =>
    if b = 90 ∨ b = 122 then .ok (0, rest)
    else if b = 43 ∨ b = 45 then do
      let (hour, rest) ← field "offset hour" 2 rest
      if 23 < hour then throw (.component "offset hour")
      let rest ← literal 58 rest
      let (minute, rest) ← field "offset minute" 2 rest
      if 59 < minute then throw (.range "offset minute" (-59) 59 none)
      let total : Int := (hour * 60 + minute : Nat)
      .ok (if b = 45 then -total else total, rest)
    else .error (.component "offset hour")

/-! ## §5. Checks. -/

/-- A number that must lie in a range. -/
def inRange (name : String) (least greatest n : Nat) (remark : Option String) :
    Except TimestampError Unit :=
  if least ≤ n ∧ n ≤ greatest then .ok () else .error (.range name least greatest remark)

/-- Whether the second after a timestamp starts a month of universal time. -/
def beforeMonth (t : Timestamp) : Bool :=
  let next := t.unixSeconds + 1
  next == (Date.mk t.date.year t.date.month 1).unixDay * 86400 ||
    next == t.date.nextMonth.unixDay * 86400

/-- The timestamp of its fields, with second 60 replaced by the last nanosecond before it. -/
def standIn (t : Timestamp) : Timestamp :=
  if t.second = 60 then { t with second := 59, nanos := 999999999 } else t

/-- **Fields that make a timestamp.** -/
def check (t : Timestamp) : Except TimestampError Timestamp := do
  inRange "month" 1 12 t.date.month none
  inRange "day" 1 (daysInMonth t.date.year t.date.month) t.date.day
    (some "for the given month and year")
  inRange "hour" 0 23 t.hour none
  inRange "minute" 0 59 t.minute none
  inRange "second" 0 59 t.standIn.second none
  if t.second = 60 ∧ !t.standIn.beforeMonth then
    throw (.range "second" 0 59 (some "because leap seconds are not supported"))
  .ok t.standIn

/-! ## §6. Reading. -/

/-- The fields of a byte list. -/
def fields (input : List UInt8) : Except TimestampError Timestamp := do
  let (year, rest) ← field "year" 4 input
  let rest ← literal 45 rest
  let (month, rest) ← field "month" 2 rest
  if month = 0 then throw (.component "month")
  let rest ← literal 45 rest
  let (day, rest) ← field "day" 2 rest
  let rest ← separator rest
  let (hour, rest) ← field "hour" 2 rest
  let rest ← literal 58 rest
  let (minute, rest) ← field "minute" 2 rest
  let rest ← literal 58 rest
  let (second, rest) ← field "second" 2 rest
  let (nanos, rest) ← subsecond rest
  let (ahead, rest) ← zoneOffset rest
  if rest ≠ [] then throw .trailing
  .ok ⟨⟨year, month, day⟩, hour, minute, second, nanos, ahead⟩

/-- **The timestamp of a text.** -/
def parse (s : String) : Except TimestampError Timestamp := do
  (← fields (Utf8.encode s)).check

end Timestamp

end WorkloadIdentity
