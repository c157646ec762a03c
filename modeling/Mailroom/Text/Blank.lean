import Mailroom.Text.CharSet

/-!
# White space

* `CodePoint.isBlank`: white space of any script, and the four information separators;
* `Text.trim`, `Text.trimLeft`, `Text.trimRight`: a text without the blanks at its ends;
* `Text.words`: the pieces between blanks.
-/

namespace Mailroom

/-- The blanks, as runs. -/
def blankRuns : List Nat := [
  0x09, 0x0E, 0x1C, 0x21, 0x85, 0x86, 0xA0, 0xA1, 0x1680, 0x1681, 0x2000, 0x200B,
  0x2028, 0x202A, 0x202F, 0x2030, 0x205F, 0x2060, 0x3000, 0x3001]

/-- White space of any script, and the four information separators. -/
def CodePoint.isBlank (c : CodePoint) : Bool := inRuns blankRuns c.val

namespace Text

/-- The text from its first code point outside a class on. -/
def trimLeftWhere (p : CodePoint → Bool) (t : Text) : Text := t.dropWhile p

/-- The text up to its last code point outside a class. -/
def trimRightWhere (p : CodePoint → Bool) (t : Text) : Text := (t.reverse.dropWhile p).reverse

/-- The text without the code points of a class at its ends. -/
def trimWhere (p : CodePoint → Bool) (t : Text) : Text := trimRightWhere p (trimLeftWhere p t)

/-- The text without blanks at its beginning. -/
def trimLeft (t : Text) : Text := trimLeftWhere CodePoint.isBlank t

/-- The text without blanks at its end. -/
def trimRight (t : Text) : Text := trimRightWhere CodePoint.isBlank t

/-- The text without blanks at its ends. -/
def trim (t : Text) : Text := trimWhere CodePoint.isBlank t

/-- The text holds nothing but blanks. -/
def isBlank (t : Text) : Bool := t.all CodePoint.isBlank

/-- What stands before the first blank, and the words after it. -/
def firstAndWords : Text → Text × List Text
  | [] => ([], [])
  | c :: t =>
    let (first, others) := firstAndWords t
    if c.isBlank then ([], if first.isEmpty then others else first :: others)
    else (c :: first, others)

/-- The pieces between blanks, none of them empty. -/
def words (t : Text) : List Text :=
  let (first, others) := firstAndWords t
  if first.isEmpty then others else first :: others

@[simp] theorem trim_nil : trim [] = [] := rfl

theorem trimLeftWhere_of_head {p : CodePoint → Bool} {c : CodePoint} {t : Text}
    (h : p c = false) : trimLeftWhere p (c :: t) = c :: t := by
  simp [trimLeftWhere, h]

end Text

end Mailroom
