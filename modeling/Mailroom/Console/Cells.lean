import Mailroom.Console.CellTable
import Mailroom.Text.CodePoint

/-!
# Columns that text takes up

A joiner puts the character before it and the one after it together to one picture, and a
variation selector makes a picture of a character.

* `CodePoint.columns`: the columns of a code point: none, one or two;
* `Text.columns`: the columns of a text;
* `Text.pictures`: a text in parts that cannot be broken, each with its columns.
-/

namespace Mailroom

namespace CodePoint

/-- The columns of a code point. -/
def columns (c : CodePoint) : Nat :=
  if c.within 0x20 0x7E then 1
  else if inRuns columnlessRuns c.val then 0
  else if inRuns wideRuns c.val then 2
  else 1

/-- The zero width joiner. -/
def isJoiner (c : CodePoint) : Bool := c.val == 0x200D

/-- The selector of the form as a picture. -/
def isPictureSelector (c : CodePoint) : Bool := c.val == 0xFE0F

/-- The columns that the form as a picture has more. -/
def widening (c : CodePoint) : Nat := if inRuns widenedRuns c.val then 1 else 0

theorem columns_le_two (c : CodePoint) : c.columns ≤ 2 := by
  unfold columns
  split
  · decide
  · split
    · decide
    · split <;> decide

end CodePoint

namespace Text

/-- The columns of a text behind a character that a selector can still widen, if there is one.
A joiner and the character behind it take up none. -/
def columnsAfter (last : Option CodePoint) : Text → Nat
  | [] => 0
  | c :: t =>
    if c.isJoiner then
      match t with
      | [] => 0
      | _ :: t' => columnsAfter last t'
    else if c.isPictureSelector then (last.elim 0 CodePoint.widening) + columnsAfter none t
    else c.columns + columnsAfter (if c.columns = 0 then last else some c) t

/-- The columns of a text. -/
def columns (t : Text) : Nat := columnsAfter none t

/-- A part of a text that cannot be broken, with its columns. -/
structure Picture where
  text : Text
  columns : Nat
deriving DecidableEq

/-- The parts of a text behind a part that is not yet complete, and behind a character that a
selector can still widen. What has no columns belongs to the part before it. -/
def picturesFrom (open_ : Picture) (last : Option CodePoint) : Text → List Picture
  | [] => [open_]
  | c :: t =>
    if c.isJoiner then
      match t with
      | [] => [⟨open_.text ++ [c], open_.columns⟩]
      | d :: t' => picturesFrom ⟨open_.text ++ [c, d], open_.columns⟩ last t'
    else if c.isPictureSelector then
      let more := last.elim 0 CodePoint.widening
      picturesFrom ⟨open_.text ++ [c], open_.columns + more⟩ (if more = 0 then last else none) t
    else if c.columns = 0 then picturesFrom ⟨open_.text ++ [c], open_.columns⟩ last t
    else open_ :: picturesFrom ⟨[c], c.columns⟩ (some c) t

/-- A text in parts that cannot be broken. -/
def pictures : Text → List Picture
  | [] => []
  | c :: t =>
    picturesFrom ⟨[c], c.columns⟩ (if c.columns = 0 then none else some c) t

@[simp] theorem columns_nil : columns [] = 0 := rfl

theorem flatMap_picturesFrom (open_ : Picture) (last : Option CodePoint) (t : Text) :
    (picturesFrom open_ last t).flatMap (·.text) = open_.text ++ t := by
  fun_induction picturesFrom open_ last t <;> simp_all

/-- The parts of a text are the whole of it. -/
theorem flatMap_pictures (t : Text) : t.pictures.flatMap (·.text) = t := by
  cases t with
  | nil => rfl
  | cons c t => simp [pictures, flatMap_picturesFrom]

end Text

end Mailroom
