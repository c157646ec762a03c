import Mailroom.Text.CodePoint

/-!
# Places in a text

* `Yaml.Cursor`: what is left of a text, and where it begins;
* `Cursor.step`, `Cursor.forward`, `Cursor.takeWhile`: the next code point, some of them, or
  those of a class;
* `Cursor.lineBreak`: a line break and what it stands for;
* the classes of code points that end words, lines and documents.
-/

namespace Mailroom.Yaml

/-- A line break. Two of them are kept as they are, the others are alike. -/
def isBreak (c : CodePoint) : Bool :=
  c.val == 0x0A || c.val == 0x85 || c.val == 0x2028 || c.val == 0x2029

/-- A space. -/
def isSpace (c : CodePoint) : Bool := c.val == 0x20

/-- A space or tab. -/
def isSpaceOrTab (c : CodePoint) : Bool := isSpace c || c.val == 0x09

/-- Nothing or a line break comes next. -/
def endsLine (next : Option CodePoint) : Bool := next.all isBreak

/-- Nothing, a space or a line break comes next. -/
def endsWord (next : Option CodePoint) : Bool := next.all fun c => isSpace c || isBreak c

/-- Nothing, a space, tab or line break comes next. -/
def endsMark (next : Option CodePoint) : Bool := next.all fun c => isSpaceOrTab c || isBreak c

/-- A text begins with a mark that separates documents. -/
def beginsWithMark (mark : Text) (t : Text) : Bool :=
  mark.isPrefixOf t && endsMark (t.drop mark.length).head?

/-- A text begins with one of the two marks that separate documents. -/
def beginsWithSeparator (t : Text) : Bool := beginsWithMark "---" t || beginsWithMark "..." t

/-- What is left of a text, and where it begins. -/
structure Cursor where
  rest : Text
  index : Nat
  line : Nat
  column : Nat
deriving DecidableEq

namespace Cursor

/-- The beginning of a text. -/
def start (t : Text) : Cursor := ⟨t, 0, 0, 0⟩

/-- The code point that comes next. -/
def peek (c : Cursor) : Option CodePoint := c.rest.head?

/-- A code point comes next. -/
def at? (c : Cursor) (mark : CodePoint) : Bool := c.rest.head? == some mark

/-- A code point of a class comes next. -/
def sees (c : Cursor) (p : CodePoint → Bool) : Bool := c.rest.head?.any p

/-- Behind the next code point. A byte order mark takes no column. -/
def step (c : Cursor) : Cursor :=
  match c.rest with
  | [] => c
  | d :: rest =>
    if isBreak d then ⟨rest, c.index + 1, c.line + 1, 0⟩
    else ⟨rest, c.index + 1, c.line, if d.val == 0xFEFF then c.column else c.column + 1⟩

/-- Behind some of the next code points. -/
def forward (c : Cursor) : Nat → Cursor
  | 0 => c
  | n + 1 => c.step.forward n

/-- The next code points of a class, and the place behind them. -/
def takeWhile (c : Cursor) (p : CodePoint → Bool) : Text × Cursor :=
  let taken := c.rest.takeWhile p
  (taken, c.forward taken.length)

/-- Behind the next code points of a class. -/
def skipWhile (c : Cursor) (p : CodePoint → Bool) : Cursor := (c.takeWhile p).2

/-- Behind spaces, and behind a comment if one follows them. -/
def skipComment (c : Cursor) : Cursor :=
  let c := c.skipWhile isSpace
  if c.at? '#' then c.skipWhile fun d => !isBreak d else c

/-- What a line break stands for, and the place behind it; nothing if there is none. -/
def lineBreak (c : Cursor) : Text × Cursor :=
  match c.rest with
  | [] => ([], c)
  | d :: _ =>
    if d.val == 0x0A || d.val == 0x85 then ([CodePoint.ofChar '\n'], c.step)
    else if isBreak d then ([d], c.step)
    else ([], c)

/-- The line break between two lines that are put together is a space, unless it is one of
those that are kept or more of them follow. -/
def folded (first : Text) (more : List Text) : Text :=
  let joint : Text :=
    if first ≠ [CodePoint.ofChar '\n'] then first
    else if more.isEmpty then [CodePoint.ofChar ' '] else []
  joint ++ more.flatten

theorem length_rest_step_lt {c : Cursor} (h : c.rest ≠ []) :
    c.step.rest.length < c.rest.length := by
  unfold step
  split
  · contradiction
  · rename_i d rest hr
    split <;> simp [hr]

end Cursor

end Mailroom.Yaml
