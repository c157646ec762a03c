import Mailroom.Text.Blank
import Mailroom.Text.Digit

/-!
# Integers as people type them

* `Text.toInt?`: an optional sign and decimal digits of any script, perhaps with single low
  lines between digits and blanks around the whole; at most 4300 digits;
* `Text.toIntInBase?`: the same in base two, eight or sixteen, with an optional mark of the base.
-/

namespace Mailroom.Text

/-- A blank that may stand around a number. The information separators may not. -/
def isNumberBlank (c : CodePoint) : Bool := c.isBlank && !c.within 0x1C 0x1F

/-- The value and count of digits with single low lines between them. -/
def digitsFrom (afterDigit : Bool) (value count : Nat) : Text → Option (Nat × Nat)
  | [] => if afterDigit then some (value, count) else none
  | c :: t =>
    match c.digitValue? with
    | some d => digitsFrom true (value * 10 + d) (count + 1) t
    | none => if afterDigit && c.val == 0x5F then digitsFrom false value count t else none

/-- The number of digits with single low lines between them, if there are not too many. -/
def toNat? (t : Text) : Option Nat :=
  match digitsFrom false 0 0 t with
  | some (value, count) => if count ≤ 4300 then some value else none
  | none => none

/-- The integer that a text stands for. -/
def toInt? (t : Text) : Option Int :=
  match trimWhere isNumberBlank t with
  | c :: rest =>
    if c.val == 0x2D then (toNat? rest).map fun n => -(n : Int)
    else if c.val == 0x2B then (toNat? rest).map Int.ofNat
    else (toNat? (c :: rest)).map Int.ofNat
  | [] => none

/-- The value of a digit in a base of at most sixteen. -/
def digitInBase? (base : Nat) (c : CodePoint) : Option Nat :=
  match c.digitValue?.or c.hexValue? with
  | some d => if d < base then some d else none
  | none => none

/-- The letter that marks a base behind a zero. -/
def baseMark (base : Nat) : Char := if base = 2 then 'b' else if base = 8 then 'o' else 'x'

/-- The digits without the mark of their base. -/
def withoutBaseMark (base : Nat) : Text → Text
  | z :: m :: t =>
    let mark := baseMark base
    if z.val = 0x30 ∧ (m.val = mark.toNat ∨ m.val + 0x20 = mark.toNat) then t else z :: m :: t
  | t => t

/-- The number of digits in a base, perhaps with the mark of the base. -/
def toNatInBase? (base : Nat) (t : Text) : Option Nat :=
  let digits := withoutBaseMark base t
  if digits.isEmpty then none
  else digits.foldl (fun n c => n.bind fun n => (digitInBase? base c).map (n * base + ·)) (some 0)

/-- The integer that a text stands for in base two, eight or sixteen. -/
def toIntInBase? (base : Nat) (t : Text) : Option Int :=
  match trimWhere isNumberBlank t with
  | c :: rest =>
    if c.val == 0x2D then (toNatInBase? base rest).map fun n => -(n : Int)
    else if c.val == 0x2B then (toNatInBase? base rest).map Int.ofNat
    else (toNatInBase? base (c :: rest)).map Int.ofNat
  | [] => none

end Mailroom.Text
