import Mailroom.Calendar
import Mailroom.Yaml.Cursor

/-!
# Times in YAML

* `Timestamp.read?`: the parts of a day, perhaps with a time behind it;
* `Timestamp.isPlain`: the text is a time even if nothing says so; without a time of day the
  month and the day have two digits each.
-/

namespace Mailroom.Yaml.Timestamp

/-- A number of some digits at least and at most, with what follows it. -/
def takeNumber? (least most : Nat) (t : Text) : Option (Nat × Text) :=
  let digits := (t.take most).takeWhile CodePoint.isAsciiDigit
  if digits.length < least then none
  else some (digits.foldl (fun n d => n * 10 + (d.val - 0x30)) 0, t.drop digits.length)

/-- What follows a code point. -/
def after? (mark : Char) : Text → Option Text
  | c :: t => if c = CodePoint.ofChar mark then some t else none
  | [] => none

/-- The microseconds of a fraction of a second, with what follows it. -/
def takeFraction (t : Text) : Nat × Text :=
  match after? '.' t with
  | none => (0, t)
  | some t =>
    let digits := t.takeWhile CodePoint.isAsciiDigit
    let six := (digits ++ List.replicate 6 (CodePoint.ofChar '0')).take 6
    (six.foldl (fun n d => n * 10 + (d.val - 0x30)) 0, t.drop digits.length)

/-- The offset that a text is. -/
def offset? : Text → Option Int
  | [] => none
  | c :: t =>
    if c.val == 0x5A then (if t.isEmpty then some 0 else none)
    else if c.val == 0x2B || c.val == 0x2D then do
      let (hour, t) ← takeNumber? 1 2 t
      let minute ← match t with
        | [] => some 0
        | _ => do
          let (minute, t) ← takeNumber? 2 2 (← after? ':' t)
          if t.isEmpty then some minute else none
      let size : Int := hour * 60 + minute
      return if c.val == 0x2D then -size else size
    else none

/-- The time of day behind a date. -/
def time? (date : Date) (t : Text) : Option Moment := do
  let (hour, t) ← takeNumber? 1 2 t
  let (minute, t) ← takeNumber? 2 2 (← after? ':' t)
  let (second, t) ← takeNumber? 2 2 (← after? ':' t)
  let (microsecond, t) := takeFraction t
  let rest := t.dropWhile isSpaceOrTab
  let offset : Option Int ← if t.isEmpty then some none else (offset? rest).map some
  return ⟨date, hour, minute, second, microsecond, offset⟩

/-- What stands between the date and the time of day, left out. -/
def afterGap? : Text → Option Text
  | [] => none
  | c :: t =>
    if c.val == 0x54 || c.val == 0x74 then some t
    else if isSpaceOrTab c then some (t.dropWhile isSpaceOrTab)
    else none

/-- A text without the line feed at its end. -/
def withoutFinalBreak (t : Text) : Text :=
  if t.getLast? = some (CodePoint.ofChar '\n') then t.dropLast else t

/-- The parts of a day, perhaps with a time behind it. -/
def read? (t : Text) : Option (Date ⊕ Moment) := do
  let (year, t) ← takeNumber? 4 4 (withoutFinalBreak t)
  let (month, t) ← takeNumber? 1 2 (← after? '-' t)
  let (day, t) ← takeNumber? 1 2 (← after? '-' t)
  let date : Date := ⟨year, month, day⟩
  if t.isEmpty then return .inl date else return .inr (← time? date (← afterGap? t))

/-- The text is a time even if nothing says so. -/
def isPlain (t : Text) : Bool :=
  match read? t with
  | some (.inl _) => (withoutFinalBreak t).length == 10
  | some (.inr _) => true
  | none => false

end Mailroom.Yaml.Timestamp
