import Mailroom.Yaml.Cursor

/-!
# Scalars without quotation marks

Such a scalar ends before a comment, before a colon that ends a key, and before a line that
is not indented enough; inside of brackets also before brackets and separators. Its line
breaks are folded.

* `Plain.scan`: the text, whether a line break follows it, and the place behind.
-/

namespace Mailroom.Yaml.Plain

/-- A separator or bracket of a collection in brackets. -/
def isFlowMark (c : CodePoint) : Bool :=
  c.val == 0x2C || c.val == 0x5B || c.val == 0x5D || c.val == 0x7B || c.val == 0x7D

/-- The colon before what comes next ends a key. -/
def endsKey (flow : Bool) (next : Option CodePoint) : Bool :=
  endsMark next || (flow && next.any isFlowMark)

/-- The text up to a blank, a line break or a mark that ends the scalar. -/
def word (flow : Bool) : Text → Text
  | [] => []
  | c :: t =>
    if isSpaceOrTab c || isBreak c || (c.val == 0x3A && endsKey flow t.head?)
        || (flow && (isFlowMark c || c.val == 0x3F)) then []
    else c :: word flow t

/-- The line breaks at the beginnings of empty lines. Nothing where a separator of documents
follows one. -/
def breaks : Nat → Cursor → Option (List Text) × Cursor
  | 0, c => (some [], c)
  | fuel + 1, c =>
    let c := c.skipWhile isSpace
    if c.sees isBreak then
      let (first, c) := c.lineBreak
      if beginsWithSeparator c.rest then (none, c)
      else
        let (more, c) := breaks fuel c
        (more.map (first :: ·), c)
    else (some [], c)

/-- What stands between two words, whether it has a line break, and the place behind it.
Nothing where a separator of documents follows. -/
def space (c : Cursor) : Option Text × Bool × Cursor :=
  let (blanks, c) := c.takeWhile isSpace
  if c.sees isBreak then
    let (first, c) := c.lineBreak
    if beginsWithSeparator c.rest then (none, true, c)
    else
      let (more, c) := breaks c.rest.length c
      (more.map (Cursor.folded first), true, c)
  else (some blanks, false, c)

/-- Words and the space between them, given the space before them. -/
def content (flow : Bool) (indent : Nat) :
    Nat → Text → Bool → Cursor → Text × Bool × Cursor
  | 0, _, broken, c => ([], broken, c)
  | fuel + 1, before, broken, c =>
    let first : Text := if c.at? '#' then [] else word flow c.rest
    if first.isEmpty then ([], broken, c)
    else
      let (between, broken, c) := space (c.forward first.length)
      let here := before ++ first
      match between with
      | none => (here, broken, c)
      | some between =>
        if between.isEmpty || c.at? '#' || (!flow && c.column < indent) then (here, broken, c)
        else
          let (more, broken, c) := content flow indent fuel between broken c
          (here ++ more, broken, c)

/-- The scalar at a place whose further lines are indented by some columns at least. -/
def scan (flow : Bool) (indent : Nat) (c : Cursor) : Text × Bool × Cursor :=
  content flow indent (c.rest.length + 1) [] false c

end Mailroom.Yaml.Plain
