import Mailroom.Yaml.Cursor
import Mailroom.Yaml.Fault

/-!
# Scalars in quotation marks

Line breaks inside of quotation marks are folded. Between double marks a backslash begins an
escape, and one at the end of a line joins it to the next; between single marks only the mark
itself is written specially, twice.

* `Quoted.scan`: the text between two marks, and the place behind the second one.
-/

namespace Mailroom.Yaml.Quoted

/-- What an escape of a single letter stands for. -/
def letterEscape? (c : CodePoint) : Option CodePoint :=
  if c.val == 0x09 then some c
  else match Char.ofNat c.val with
    | '0' => some (CodePoint.ofNat 0x00)
    | 'a' => some (CodePoint.ofNat 0x07)
    | 'b' => some (CodePoint.ofNat 0x08)
    | 't' => some (CodePoint.ofNat 0x09)
    | 'n' => some (CodePoint.ofNat 0x0A)
    | 'v' => some (CodePoint.ofNat 0x0B)
    | 'f' => some (CodePoint.ofNat 0x0C)
    | 'r' => some (CodePoint.ofNat 0x0D)
    | 'e' => some (CodePoint.ofNat 0x1B)
    | ' ' | '"' | '\\' | '/' => some c
    | 'N' => some (CodePoint.ofNat 0x85)
    | '_' => some (CodePoint.ofNat 0xA0)
    | 'L' => some (CodePoint.ofNat 0x2028)
    | 'P' => some (CodePoint.ofNat 0x2029)
    | _ => none

/-- How many digits follow a letter that begins the escape of a number. -/
def numberWidth? (c : CodePoint) : Option Nat :=
  match Char.ofNat c.val with
  | 'x' => some 2
  | 'u' => some 4
  | 'U' => some 8
  | _ => none

/-- The code point of a number; there are none beyond the last plane. -/
def codePoint (n : Nat) : Except Fault CodePoint :=
  match CodePoint.ofNat? n with
  | some c => .ok c
  | none => .error (.breakdown (if Nat.pow 2 31 ≤ n then .tooLarge else .outOfRange))

/-- The code point that a number of digits at a place stand for. -/
def numberEscape (width : Nat) (c : Cursor) : Except Fault (CodePoint × Cursor) :=
  let digits := c.rest.take width
  if digits.length < width then .error .malformed
  else match Text.hexNumber? digits with
    | none => .error .malformed
    | some n => (codePoint n).map fun d => (d, c.forward width)

/-- The line breaks at the beginnings of empty lines. -/
def breaks : Nat → Cursor → Except Fault (List Text × Cursor)
  | 0, c => .ok ([], c)
  | fuel + 1, c =>
    if beginsWithSeparator c.rest then .error .malformed
    else
      let c := c.skipWhile isSpaceOrTab
      if c.sees isBreak then do
        let (first, c) := c.lineBreak
        let (more, c) ← breaks fuel c
        return (first :: more, c)
      else .ok ([], c)

/-- What the escape behind a backslash stands for. -/
def escape (c : Cursor) : Except Fault (Text × Cursor) :=
  match c.rest with
  | [] => .error .malformed
  | d :: _ =>
    match letterEscape? d with
    | some e => .ok ([e], c.step)
    | none => match numberWidth? d with
      | some width => (numberEscape width c.step).map fun (e, c) => ([e], c)
      | none =>
        if isBreak d then do
          let (lines, c) ← breaks c.rest.length c.lineBreak.2
          return (lines.flatten, c)
        else .error .malformed

/-- The text up to the next blank, line break or closing mark. -/
def word (double : Bool) : Nat → Cursor → Except Fault (Text × Cursor)
  | 0, c => .ok ([], c)
  | fuel + 1, c =>
    match c.rest with
    | [] => .ok ([], c)
    | d :: rest =>
      let keep (c : Cursor) : Except Fault (Text × Cursor) := do
        let (more, c) ← word double fuel c
        return (d :: more, c)
      if isSpaceOrTab d || isBreak d then .ok ([], c)
      else if d.val == 0x27 then
        if double then keep c.step
        else if rest.head? == some d then keep (c.forward 2)
        else .ok ([], c)
      else if d.val == 0x22 then (if double then .ok ([], c) else keep c.step)
      else if d.val == 0x5C && double then do
        let (first, c) ← escape c.step
        let (more, c) ← word double fuel c
        return (first ++ more, c)
      else keep c.step

/-- Blanks, or line breaks folded. -/
def space (c : Cursor) : Except Fault (Text × Cursor) :=
  let (blanks, c) := c.takeWhile isSpaceOrTab
  match c.rest with
  | [] => .error .malformed
  | d :: _ =>
    if isBreak d then do
      let (first, c) := c.lineBreak
      let (more, c) ← breaks c.rest.length c
      return (Cursor.folded first more, c)
    else .ok (blanks, c)

/-- Words and the space between them, up to the closing mark. -/
def content (double : Bool) (mark : CodePoint) : Nat → Cursor → Except Fault (Text × Cursor)
  | 0, c => .ok ([], c)
  | fuel + 1, c => do
    let (first, c) ← word double (c.rest.length + 1) c
    if c.at? mark then return (first, c.step)
    else
      let (blank, c) ← space c
      let (more, c) ← content double mark fuel c
      return (first ++ blank ++ more, c)

/-- The text from an opening mark to the closing one. -/
def scan (double : Bool) (c : Cursor) : Except Fault (Text × Cursor) :=
  content double (if double then '"' else '\'') (c.rest.length + 1) c.step

end Mailroom.Yaml.Quoted
