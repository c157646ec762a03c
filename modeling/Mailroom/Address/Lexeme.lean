import Mailroom.Text.Blank

/-!
# Lexical elements of address lists

* `Lexeme.specials` and the classes built on it: what ends an atom, a dotted atom, a phrase;
* `Filler`: blanks and comments, which may stand between any two elements;
* `Filler.take?`: the filler at the beginning of a text, with what follows it;
* `Lexeme.atom?`, `Lexeme.dottedAtom?`: a run of plain code points, without or with dots.
-/

namespace Mailroom

/-- The text between quotation marks, each mark and backslash of it after a backslash. -/
def Text.inQuotes (t : Text) : Text :=
  let mark : CodePoint := '"'
  let escape : CodePoint := '\\'
  [mark] ++ t.flatMap (fun c => if c = escape || c = mark then [escape, c] else [c]) ++ [mark]

namespace Lexeme

/-- The code points with a meaning of their own in address lists. -/
def specials : Text := "()<>@,:;.\\\"[]"

/-- A space or a tab. -/
def isSpace (c : CodePoint) : Bool := c.val == 0x20 || c.val == 0x09

/-- A code point with a meaning of its own. -/
def isSpecial (c : CodePoint) : Bool := specials.contains c

/-- The code point ends an atom. -/
def endsAtom (c : CodePoint) : Bool := isSpecial c || isSpace c

/-- The code point ends a run of atoms with dots between them. -/
def endsDottedAtom (c : CodePoint) : Bool := endsAtom c && c.val != 0x2E

/-- The code point ends a phrase, which may hold dots, quotations and comments. -/
def endsPhrase (c : CodePoint) : Bool :=
  isSpecial c && c.val != 0x2E && c.val != 0x22 && c.val != 0x28

/-- The text begins with a given code point. -/
def startsWith (c : CodePoint) (t : Text) : Bool := t.head? == some c

/-- The text is not empty and its first code point has a property. -/
def headIs (p : CodePoint → Bool) : Text → Bool
  | [] => false
  | c :: _ => p c

/-- A run of plain code points, with what follows it. -/
def atom? (t : Text) : Option (Text × Text) :=
  let run := t.takeWhile fun c => !endsAtom c
  if run.isEmpty then none else some (run, t.dropWhile fun c => !endsAtom c)

/-- Atoms with single dots between them: no dot at either end, and no two in a row. -/
def isDotted : Text → Bool
  | [] => false
  | [c] => c.val != 0x2E
  | c :: d :: t => !(c.val == 0x2E) && (if d.val == 0x2E then isDotted t else isDotted (d :: t))

/-- Atoms with single dots between them, with what follows them. -/
def dottedAtom? (t : Text) : Option (Text × Text) :=
  let run := t.takeWhile fun c => !endsDottedAtom c
  if isDotted run then some (run, t.dropWhile fun c => !endsDottedAtom c) else none

end Lexeme

/-- Blanks and comments as they would be written, and whether the last comment is open
when the text ends. -/
structure Filler where
  written : Text
  unclosed : Bool
deriving DecidableEq

namespace Filler

/-- Where the reader of a filler stands. -/
inductive Place where
  | outside
  | blank
  | comment (depth : Nat) (escaped : Bool)
  | commentBlank (depth : Nat)

/-- The step from outside of any comment: a space, a tab or a parenthesis goes on. -/
def stepOutside (c : CodePoint) : Option (Place × Text) :=
  if Lexeme.isSpace c then some (.blank, [c])
  else if c.val == 0x28 then some (.comment 1 false, [c])
  else none

/-- The step inside a comment. A blank takes the force of a backslash before it away. -/
def stepComment (depth : Nat) (escaped : Bool) (c : CodePoint) : Place × Text :=
  if Lexeme.isSpace c then (.commentBlank depth, [c])
  else if escaped then
    (.comment depth false,
      if c.val == 0x5C || c.val == 0x28 || c.val == 0x29 then [CodePoint.ofChar '\\', c] else [c])
  else if c.val == 0x5C then (.comment depth true, [])
  else if c.val == 0x28 then (.comment (depth + 1) false, [c])
  else if c.val == 0x29 then (if depth ≤ 1 then .outside else .comment (depth - 1) false, [c])
  else (.comment depth false, [c])

/-- The next place and what is written for a code point; `none` where the filler ends. -/
def Place.step : Place → CodePoint → Option (Place × Text)
  | outside, c => stepOutside c
  | blank, c => if c.isBlank then some (.blank, [c]) else stepOutside c
  | comment depth escaped, c => some (stepComment depth escaped c)
  | commentBlank depth, c =>
    if c.isBlank then some (.commentBlank depth, [c]) else some (stepComment depth false c)

/-- The filler where the text ends: open comments are closed in writing. -/
def Place.finish : Place → Filler
  | outside | blank => ⟨[], false⟩
  | comment depth _ | commentBlank depth =>
    ⟨List.replicate depth (CodePoint.ofChar ')'), true⟩

/-- The filler from a place on, with what follows it. -/
def scan : Place → Text → Filler × Text
  | place, [] => (place.finish, [])
  | place, c :: t => match place.step c with
    | none => (⟨[], false⟩, c :: t)
    | some (next, out) =>
      let (filler, rest) := scan next t
      (⟨out ++ filler.written, filler.unclosed⟩, rest)

/-- A filler can begin with this code point. -/
def canStart (c : CodePoint) : Bool := Lexeme.isSpace c || c.val == 0x28

/-- The filler at the beginning of a text, if there is one, with what follows it. -/
def take? (t : Text) : Option (Filler × Text) :=
  if Lexeme.headIs canStart t then some (scan .outside t) else none

/-- The filler at the beginning of a text, or none, with what follows. -/
def skip (t : Text) : Option Filler × Text :=
  match take? t with
  | some (filler, rest) => (some filler, rest)
  | none => (none, t)

theorem skip_of_not_canStart {c : CodePoint} {t : Text} (h : canStart c = false) :
    skip (c :: t) = (none, c :: t) := by
  simp [skip, take?, Lexeme.headIs, h]

end Filler

end Mailroom
