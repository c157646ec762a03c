import Mailroom.Text.Split

/-!
# Dates and times

* `Date`, `Moment`: a day, and a time on a day, perhaps with a distance from universal time;
* `Date.isValid`, `Moment.isValid`: there is such a day, such a time;
* `Date.shown`, `Moment.shown`: the usual notation;
* `Date.call`, `Moment.call`: the notation as a call with arguments;
* `Moment.sameTime`: two moments are one and the same.
-/

namespace Mailroom

/-- A day. -/
structure Date where
  year : Nat
  month : Nat
  day : Nat
deriving DecidableEq

/-- A time on a day. The offset is the distance from universal time in minutes. -/
structure Moment where
  date : Date
  hour : Nat
  minute : Nat
  second : Nat
  microsecond : Nat
  offset : Option Int
deriving DecidableEq

/-- A year has a day more than others. -/
def isLeapYear (year : Nat) : Bool :=
  year % 4 == 0 && (year % 100 != 0 || year % 400 == 0)

/-- How many days a month has. -/
def daysInMonth (year month : Nat) : Nat :=
  if month = 2 then (if isLeapYear year then 29 else 28)
  else if month = 4 ∨ month = 6 ∨ month = 9 ∨ month = 11 then 30 else 31

/-- A number with zeros in front of it up to a width. -/
def Text.paddedNat (width n : Nat) : Text :=
  let digits := Text.ofNat n
  List.replicate (width - digits.length) (CodePoint.ofChar '0') ++ digits

/-- Texts with commas between them, between round brackets. -/
def Text.arguments (ts : List Text) : Text := "(" ++ Text.join ", " ts ++ ")"

namespace Date

/-- There is such a day. -/
def isValid (d : Date) : Bool :=
  1 ≤ d.year && d.year ≤ 9999 && 1 ≤ d.month && d.month ≤ 12 && 1 ≤ d.day
    && d.day ≤ daysInMonth d.year d.month

/-- Year, month and day with hyphens between them. -/
def shown (d : Date) : Text :=
  Text.paddedNat 4 d.year ++ "-" ++ Text.paddedNat 2 d.month ++ "-" ++ Text.paddedNat 2 d.day

/-- The day as a call. -/
def call (d : Date) : Text :=
  "datetime.date" ++ Text.arguments [Text.ofNat d.year, Text.ofNat d.month, Text.ofNat d.day]

end Date

namespace Moment

/-- An offset is less than a day. -/
def isValidOffset (minutes : Int) : Bool := minutes.natAbs < 24 * 60

/-- There is such a time. -/
def isValid (m : Moment) : Bool :=
  m.date.isValid && m.hour < 24 && m.minute < 60 && m.second < 60 && m.microsecond < 1000000
    && m.offset.all isValidOffset

/-- An offset as hours and minutes with a sign. -/
def shownOffset (minutes : Int) : Text :=
  let sign : Text := if minutes < 0 then "-" else "+"
  let size := minutes.natAbs
  sign ++ Text.paddedNat 2 (size / 60) ++ ":" ++ Text.paddedNat 2 (size % 60)

/-- Day and time with a space between them. -/
def shown (m : Moment) : Text :=
  let fraction : Text := if m.microsecond = 0 then [] else "." ++ Text.paddedNat 6 m.microsecond
  let offset : Text := match m.offset with
    | some minutes => shownOffset minutes
    | none => []
  m.date.shown ++ " " ++ Text.paddedNat 2 m.hour ++ ":" ++ Text.paddedNat 2 m.minute ++ ":"
    ++ Text.paddedNat 2 m.second ++ fraction ++ offset

/-- An offset as a call. A negative one is a day back and some seconds forth. -/
def offsetCall (minutes : Int) : Text :=
  if minutes = 0 then "datetime.timezone.utc"
  else
    let delta :=
      if minutes < 0 then "days=-1, seconds=" ++ Text.ofInt ((minutes + 24 * 60) * 60)
      else "seconds=" ++ Text.ofInt (minutes * 60)
    "datetime.timezone(datetime.timedelta(" ++ delta ++ "))"

/-- The time as a call. Seconds and parts of them are left out where they are zero. -/
def call (m : Moment) : Text :=
  let seconds : List Nat :=
    if m.microsecond = 0 then (if m.second = 0 then [] else [m.second])
    else [m.second, m.microsecond]
  let numbers := [m.date.year, m.date.month, m.date.day, m.hour, m.minute] ++ seconds
  let offset : List Text := match m.offset with
    | some minutes => ["tzinfo=" ++ offsetCall minutes]
    | none => []
  "datetime.datetime" ++ Text.arguments (numbers.map Text.ofNat ++ offset)

/-- How many days came before a year, and before a month of it. -/
def daysBefore (year month : Nat) : Nat :=
  let years := year - 1
  years * 365 + years / 4 - years / 100 + years / 400
    + (List.range (month - 1)).foldl (fun days m => days + daysInMonth year (m + 1)) 0

/-- The microseconds from the first day of all in the time that the moment is given in. -/
def microseconds (m : Moment) : Int :=
  let days := daysBefore m.date.year m.date.month + m.date.day
  (((days * 24 + m.hour) * 60 + m.minute) * 60 + m.second) * 1000000 + m.microsecond

/-- Two moments are one and the same. If only one of them has a distance from universal time
they are not. -/
def sameTime (a b : Moment) : Bool :=
  match a.offset, b.offset with
  | none, none => a = b
  | some m, some n =>
    a.microseconds - m * 60000000 == b.microseconds - n * 60000000
  | _, _ => false

end Moment

end Mailroom
