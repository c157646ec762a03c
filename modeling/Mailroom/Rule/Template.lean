import Mailroom.Text.Blank
import Mailroom.Text.Lower

/-!
# Templates

Text in which `{{field}}` stands for the value of a field.

* `Template.segments`: the text cut from left to right into placeholders and the code
  points between them;
* `Template.isWellFormed`: what is left without the placeholders has no opening of one;
* `Template.render`: the text with values in place of the placeholders. Values are put in as
  they are and not read again.
-/

namespace Mailroom.Template

/-- A placeholder, or a code point that stands for itself. -/
inductive Segment where
  | char (c : CodePoint)
  | placeholder (field : Text)
deriving DecidableEq

/-- The opening of a placeholder. -/
def opening : Text := "\x7b\x7b"

/-- The closing of a placeholder. -/
def closing : Text := "\x7d\x7d"

/-- A letter, digit, low line or hyphen, of which names in placeholders consist. -/
def isNameChar (c : CodePoint) : Bool :=
  c.isAsciiLetter || c.isAsciiDigit || c.val == 0x5F || c.val == 0x2D

/-- The name in the placeholder at the beginning of a text, with what follows it. -/
def placeholder? (t : Text) : Option (Text × Text) :=
  if opening.isPrefixOf t then
    let inner := (t.drop 2).dropWhile CodePoint.isBlank
    let name := inner.takeWhile isNameChar
    let rest := (inner.dropWhile isNameChar).dropWhile CodePoint.isBlank
    if !name.isEmpty && closing.isPrefixOf rest then some (name, rest.drop 2) else none
  else none

/-- The segments of a text of which some code points belong to the segment before. -/
def segmentsAfter (skip : Nat) : Text → List Segment
  | [] => []
  | c :: t =>
    match skip with
    | n + 1 => segmentsAfter n t
    | 0 => match placeholder? (c :: t) with
      | some (name, rest) => .placeholder name :: segmentsAfter (t.length - rest.length) t
      | none => .char c :: segmentsAfter 0 t

/-- The segments of a text, from left to right. -/
def segments (t : Text) : List Segment := segmentsAfter 0 t

/-- What is left without the placeholders. -/
def literal (t : Text) : Text :=
  (segments t).filterMap fun
    | .char c => some c
    | .placeholder _ => none

/-- Two opening braces stand side by side. -/
def hasOpening : Text → Bool
  | c :: d :: t => (c.val == 0x7B && d.val == 0x7B) || hasOpening (d :: t)
  | _ => false

/-- What is left without the placeholders has no opening of one. -/
def isWellFormed (t : Text) : Bool := !hasOpening (literal t)

/-- The text of a segment, given the values of fields. Hidden recipients stay hidden. -/
def Segment.render (value : Text → Text) : Segment → Text
  | char c => [c]
  | placeholder field => if Text.lower field = Text.ofString "bcc" then [] else value field

/-- The text with values in place of the placeholders. -/
def render (value : Text → Text) (t : Text) : Text :=
  (segments t).flatMap (Segment.render value)

@[simp] theorem segments_nil : segments [] = [] := rfl

@[simp] theorem render_nil (value : Text → Text) : render value [] = [] := rfl

end Mailroom.Template
