import Mailroom.Text.Printable

/-!
# Quotations

Texts and octets quoted in messages: between quotation marks, with unprintable code
points and the mark itself escaped by a backslash.

* `Text.quoted`, `Octets.quoted`: the quotation;
* `Text.quotedList`: several quotations between square brackets.
-/

namespace Mailroom

/-- The digits of a number in base sixteen, at least `width` of them. -/
def Text.hexDigits (width n : Nat) : Text :=
  let digits := (Nat.toDigits 16 n).map CodePoint.ofChar
  List.replicate (width - digits.length) (CodePoint.ofChar '0') ++ digits

/-- The mark around a quotation: a single one, unless the content has single marks only. -/
def quotationMark (hasSingle hasDouble : Bool) : CodePoint :=
  if hasSingle && !hasDouble then '"' else '\''

/-- How a code point is written inside a quotation with a given mark. -/
def CodePoint.escaped (mark c : CodePoint) : Text :=
  if c = mark || c.val == 0x5C then [CodePoint.ofChar '\\', c]
  else if c.val == 0x09 then "\\t"
  else if c.val == 0x0A then "\\n"
  else if c.val == 0x0D then "\\r"
  else if c.isPrintable then [c]
  else if c.val < 0x100 then "\\x" ++ Text.hexDigits 2 c.val
  else if c.val < 0x10000 then "\\u" ++ Text.hexDigits 4 c.val
  else "\\U" ++ Text.hexDigits 8 c.val

/-- The quotation of a text. -/
def Text.quoted (t : Text) : Text :=
  let mark := quotationMark (t.contains (CodePoint.ofChar '\'')) (t.contains (CodePoint.ofChar '"'))
  [mark] ++ t.flatMap (CodePoint.escaped mark) ++ [mark]

/-- The quotations of several texts, separated by commas, between square brackets. -/
def Text.quotedList (ts : List Text) : Text :=
  "[" ++ (", " : Text).intercalate (ts.map Text.quoted) ++ "]"

/-- How an octet is written inside a quotation: as in a text, but all of the upper half
is escaped. -/
def escapedOctet (mark : CodePoint) (b : UInt8) : Text :=
  if b.toNat < 0x80 then CodePoint.escaped mark (CodePoint.ofNat b.toNat)
  else "\\x" ++ Text.hexDigits 2 b.toNat

/-- The quotation of octets, marked by a leading `b`. -/
def Octets.quoted (octets : Octets) : Text :=
  let mark := quotationMark (octets.contains 0x27) (octets.contains 0x22)
  "b" ++ [mark] ++ octets.flatMap (escapedOctet mark) ++ [mark]

end Mailroom
