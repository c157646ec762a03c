import Mailroom.Text.CompositionTable

/-!
# Composed text

A letter with marks can be written as one character, or as the letter and its marks. The
composed form of a text takes all characters apart, brings the marks on each letter into the
order of their classes, and puts together what has a character of its own.

* `CodePoint.parts?`, `CodePoint.joined?`: the two characters that a character is made of;
* `Text.decomposed`, `Text.inMarkOrder`, `Text.recomposed`: the three steps;
* `Text.composed`: the composed form.
-/

namespace Mailroom

namespace CodePoint

/-- The class of a mark. Characters that are no marks have class nought. -/
def markClass (c : CodePoint) : Nat :=
  match markClasses.find? fun (low, high, _) => low ≤ c.val && c.val ≤ high with
  | some (_, _, cls) => cls
  | none => 0

/-- The character made of two, if there is one. Syllables of Hangul are made of letters by
arithmetic. -/
def joined? (a b : CodePoint) : Option CodePoint :=
  if a.within 0x1100 0x1112 && b.within 0x1161 0x1175 then
    some (ofNat (0xAC00 + ((a.val - 0x1100) * 21 + (b.val - 0x1161)) * 28))
  else if a.within 0xAC00 0xD7A3 && (a.val - 0xAC00) % 28 = 0 && b.within 0x11A8 0x11C2 then
    some (ofNat (a.val + (b.val - 0x11A7)))
  else ((composites.lookup b.val).bind (·.lookup a.val)).map ofNat

/-- The two characters that a character of Unicode 3.2 is made of. -/
def parts? (c : CodePoint) : Option (CodePoint × CodePoint) :=
  if c.within 0xAC00 0xD7A3 then
    let n := c.val - 0xAC00
    if n % 28 = 0 then some (ofNat (0x1100 + n / 588), ofNat (0x1161 + n / 28 % 21))
    else some (ofNat (c.val - n % 28), ofNat (0x11A7 + n % 28))
  else if laterComposites.contains c.val then none
  else
    composites.findSome? fun (second, firsts) =>
      (firsts.find? (·.2 = c.val)).map fun (first, _) => (ofNat first, ofNat second)

/-- The characters that a character is made of, down to a given depth. -/
def partsTo : Nat → CodePoint → List CodePoint
  | 0, c => [c]
  | depth + 1, c =>
    match c.parts? with
    | some (first, second) => partsTo depth first ++ partsTo depth second
    | none => [c]

end CodePoint

namespace Text

/-- Every character taken apart. No character has parts beyond the third level. -/
def decomposed (t : Text) : Text := t.flatMap (CodePoint.partsTo 4)

/-- A character before marks of higher classes at the beginning of a text. -/
def insertMark (c : CodePoint) : Text → Text
  | [] => [c]
  | d :: t =>
    if d.markClass ≠ 0 && d.markClass < c.markClass then d :: insertMark c t else c :: d :: t

/-- The marks on each character in the order of their classes; those of one class stay as
they are. -/
def inMarkOrder : Text → Text
  | [] => []
  | c :: t => if c.markClass = 0 then c :: inMarkOrder t else insertMark c (inMarkOrder t)

/-- The text with characters put together: `base` is the last one that is no mark, `marks`
are those after it that could not be joined to it, in reverse, and `last` is the class of the
last of them. A mark joins the base only if no mark of its own class stands between. -/
def recompose (base : Option CodePoint) (marks : Text) (last : Nat) : Text → Text
  | [] => base.toList ++ marks.reverse
  | c :: t =>
    let isBlocked := !marks.isEmpty && c.markClass ≤ last
    match if isBlocked then none else base.bind fun b => b.joined? c with
    | some joined => recompose (some joined) marks last t
    | none =>
      if c.markClass = 0 then base.toList ++ marks.reverse ++ recompose (some c) [] 0 t
      else recompose base (c :: marks) c.markClass t

/-- The text with characters put together. -/
def recomposed (t : Text) : Text := recompose none [] 0 t

/-- The composed form of a text. -/
def composed (t : Text) : Text := t.decomposed.inMarkOrder.recomposed

@[simp] theorem composed_nil : composed [] = [] := rfl

theorem length_insertMark (c : CodePoint) (t : Text) :
    (insertMark c t).length = t.length + 1 := by
  induction t with
  | nil => rfl
  | cons d t ih =>
    rw [insertMark]
    split
    · simp [ih]
    · simp

/-- Ordering the marks loses none. -/
theorem length_inMarkOrder (t : Text) : (inMarkOrder t).length = t.length := by
  induction t with
  | nil => rfl
  | cons c t ih =>
    by_cases h : c.markClass = 0
    · simp [inMarkOrder, h, ih]
    · simp [inMarkOrder, h, length_insertMark, ih]

end Text

end Mailroom
