import Mailroom.Yaml.Cursor
import Mailroom.Yaml.Fault

/-!
# Scalars made of whole lines

The lines below a mark that are indented more than what surrounds them. They are kept as they
are or folded, and the line breaks at the end are dropped, kept, or reduced to one.

* `Block.scan`: the text of such lines, and the place behind them.
-/

namespace Mailroom.Yaml.Block

/-- What becomes of the line breaks at the end. -/
inductive Ending where
  | one
  | none
  | all
deriving DecidableEq

/-- What a sign says about the end. -/
def ending? (c : CodePoint) : Option Ending :=
  if c.val == 0x2B then some .all else if c.val == 0x2D then some .none else Option.none

/-- The sign at a place. -/
def takeEnding (c : Cursor) : Option Ending × Cursor :=
  match c.peek.bind ending? with
  | some ending => (some ending, c.step)
  | none => (Option.none, c)

/-- The number of columns at a place. Zero is no such number. -/
def takeColumns (c : Cursor) : Except Fault (Option Nat × Cursor) :=
  match c.rest with
  | [] => .ok (none, c)
  | d :: _ =>
    if d.isAsciiDigit then
      if d.val == 0x30 then .error .malformed else .ok (some (d.val - 0x30), c.step)
    else .ok (none, c)

/-- Sign and number of columns behind the mark, in either order. -/
def takeHeader (c : Cursor) : Except Fault (Option Ending × Option Nat × Cursor) := do
  let (ending, c) := takeEnding c
  let (columns, c) ← takeColumns c
  let (ending, c) := match ending with
    | some e => (some e, c)
    | none => if columns.isSome then takeEnding c else (Option.none, c)
  if endsWord c.peek then return (ending, columns, c) else throw .malformed

/-- The rest of a line that holds nothing but a comment. -/
def endLine (c : Cursor) : Except Fault Cursor :=
  let c := c.skipComment
  if endsLine c.peek then .ok c.lineBreak.2 else .error .malformed

/-- The line breaks of empty lines, with the greatest column reached. -/
def emptyLines : Nat → Nat → Cursor → List Text × Nat × Cursor
  | 0, deepest, c => ([], deepest, c)
  | fuel + 1, deepest, c =>
    let c := c.skipWhile isSpace
    let deepest := max deepest c.column
    if c.sees isBreak then
      let (first, c) := c.lineBreak
      let (more, deepest, c) := emptyLines fuel deepest c
      (first :: more, deepest, c)
    else ([], deepest, c)

/-- Behind spaces, up to a column. -/
def indentTo (indent : Nat) : Nat → Cursor → Cursor
  | 0, c => c
  | fuel + 1, c => if c.column < indent && c.sees isSpace then indentTo indent fuel c.step else c

/-- The line breaks of lines with at most some spaces. -/
def breaks (indent : Nat) : Nat → Cursor → List Text × Cursor
  | 0, c => ([], c)
  | fuel + 1, c =>
    let c := indentTo indent c.rest.length c
    if c.sees isBreak then
      let (first, c) := c.lineBreak
      let (more, c) := breaks indent fuel c
      (first :: more, c)
    else ([], c)

/-- The lines from a place on, given the line breaks before it; then the last line break and
the ones after it. -/
def lines (isFolded : Bool) (indent : Nat) :
    Nat → List Text → Cursor → Text × Text × List Text × Cursor
  | 0, before, c => ([], [], before, c)
  | fuel + 1, before, c =>
    if c.column = indent ∧ c.rest ≠ [] then
      let startsWithWord := !c.sees isSpaceOrTab
      let (line, c) := c.takeWhile fun d => !isBreak d
      let (lineEnd, c) := c.lineBreak
      let (after, c) := breaks indent (c.rest.length + 1) c
      let here := before.flatten ++ line
      if c.column = indent ∧ c.rest ≠ [] then
        let joint : Text :=
          if isFolded && lineEnd = [CodePoint.ofChar '\n'] && startsWithWord
              && !c.sees isSpaceOrTab then
            if after.isEmpty then [CodePoint.ofChar ' '] else []
          else lineEnd
        let (more, last, rest, c) := lines isFolded indent fuel after c
        (here ++ joint ++ more, last, rest, c)
      else (here, lineEnd, after, c)
    else ([], [], before, c)

/-- The text of lines with what is kept of the line breaks at its end. -/
def withEnding (ending : Option Ending) (text last : Text) (rest : List Text) : Text :=
  match ending with
  | some .none => text
  | some .all => text ++ last ++ rest.flatten
  | some .one | none => text ++ last

/-- The lines below a mark, which are indented by some columns at least. -/
def scan (isFolded : Bool) (least : Nat) (c : Cursor) : Except Fault (Text × Cursor) := do
  let (ending, columns, c) ← takeHeader c.step
  let c ← endLine c
  let least := max least 1
  let (indent, before, c) : Nat × List Text × Cursor := match columns with
    | none =>
      let (before, deepest, c) := emptyLines (c.rest.length + 1) 0 c
      (max least deepest, before, c)
    | some n =>
      let indent := least + n - 1
      let (before, c) := breaks indent (c.rest.length + 1) c
      (indent, before, c)
  let (text, last, rest, c) := lines isFolded indent (c.rest.length + 1) before c
  return (withEnding ending text last rest, c)

end Mailroom.Yaml.Block
