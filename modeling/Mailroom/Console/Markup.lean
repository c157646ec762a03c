import Mailroom.Console.Emoji
import Mailroom.Console.Literal
import Mailroom.Console.Style
import Mailroom.Text.WordChar

/-!
# Markup of printed text

A tag in square brackets opens a style or closes one that is open. A backslash in front of a tag
makes it text.

* `Markup.Tag`: a tag, with what stands behind its equals sign;
* `Markup.pieces`: the texts and tags of a marked text, in order;
* `Markup.render`: the text without its markup, if everything that is closed has been opened.
-/

namespace Mailroom.Markup

/-- Why a marked text cannot be rendered. -/
inductive Fault where
  /-- A tag closes what is not open. -/
  | unopened
  /-- The arguments of a handler cannot be read. -/
  | badArguments
  /-- A part of a colour is no number. -/
  | noNumber
deriving DecidableEq

/-- A tag: its name and what stands behind its equals sign. -/
structure Tag where
  name : Text
  parameters : Option Text
deriving DecidableEq

/-- A piece of a marked text. A literal piece comes from what would be a tag without its
backslash. -/
inductive Piece where
  | plain (text : Text)
  | literal (text : Text)
  | tag (tag : Tag)
deriving DecidableEq

/-- The code point can be the first in a tag. -/
def opensTag (c : CodePoint) : Bool :=
  c.isAsciiLower || c.val == 0x23 || c.val == 0x2F || c.val == 0x40

/-- The text up to the first closing bracket, unless an opening bracket comes before. -/
def untilBracket? : Text → Option Text
  | [] => none
  | c :: t =>
    if c = CodePoint.ofChar ']' then some []
    else if c = CodePoint.ofChar '[' then none
    else (untilBracket? t).map (c :: ·)

/-- What stands between the brackets of a tag and the backslashes in front of it. -/
structure Found where
  slashes : Nat
  body : Text
deriving DecidableEq

/-- The tag that a text starts with, backslashes in front of it included. -/
def found? : Text → Option Found
  | [] => none
  | c :: t =>
    if c = CodePoint.ofChar '\\' then (found? t).map fun f => { f with slashes := f.slashes + 1 }
    else if c = CodePoint.ofChar '[' then
      match t with
      | d :: rest => if opensTag d then (untilBracket? rest).map fun u => ⟨0, d :: u⟩ else none
      | [] => none
    else none

/-- The number of code points of a tag, its brackets and the backslashes in front of it. -/
def Found.length (f : Found) : Nat := f.slashes + f.body.length + 2

/-- A tag with a given text between its brackets. -/
def Tag.ofBody (body : Text) : Tag :=
  match Text.cut? '=' body with
  | some (name, parameters) => ⟨name, some parameters⟩
  | none => ⟨body, none⟩

/-- The pieces of a tag with backslashes in front of it. Two backslashes are one in the text, and
one that is left over makes the tag text. -/
def Found.pieces (f : Found) : List Piece :=
  let slashes : Text := List.replicate (f.slashes / 2) (CodePoint.ofChar '\\')
  let front : List Piece := if slashes.isEmpty then [] else [.literal slashes]
  if f.slashes % 2 = 1 then front ++ [.literal ("[" ++ f.body ++ "]")]
  else front ++ [.tag (Tag.ofBody f.body)]

/-- Pieces with one more code point in front. -/
def consPlain (c : CodePoint) : List Piece → List Piece
  | .plain t :: pieces => .plain (c :: t) :: pieces
  | pieces => .plain [c] :: pieces

/-- The pieces of a text from behind some code points on. -/
def piecesFrom : Nat → Text → List Piece
  | _, [] => []
  | skipped + 1, _ :: t => piecesFrom skipped t
  | 0, c :: t =>
    match found? (c :: t) with
    | some f => f.pieces ++ piecesFrom (f.length - 1) t
    | none => consPlain c (piecesFrom 0 t)

/-- The texts and tags of a marked text. -/
def pieces (t : Text) : List Piece := piecesFrom 0 t

/-- A text without the backslashes in front of its opening brackets. -/
def unescaped : Text → Text
  | [] => []
  | [c] => [c]
  | c :: d :: t =>
    if c = CodePoint.ofChar '\\' ∧ d = CodePoint.ofChar '[' then d :: unescaped t
    else c :: unescaped (d :: t)

/-- A control character that is never printed: bell, backspace, vertical tab, form feed and
carriage return. -/
def isDropped (c : CodePoint) : Bool := [0x07, 0x08, 0x0B, 0x0C, 0x0D].contains c.val

/-- A piece of text as it is printed. -/
def shown (t : Text) : Text := (Emoji.expand t).filter fun c => !isDropped c

/-- The call of a handler: a name, and perhaps arguments between round brackets. Anything else
has to be literals. -/
def hasGoodArguments (parameters : Text) : Bool :=
  let t := parameters.trim
  let isNamePart (c : CodePoint) : Bool := c.isWordChar || c = CodePoint.ofChar '.'
  let arguments := t.dropWhile isNamePart
  if arguments.isEmpty then true
  else if arguments.head? = some (CodePoint.ofChar '(')
      ∧ arguments.getLast? = some (CodePoint.ofChar ')') ∧ arguments.all (·.val ≠ 0x0A) then
    Literal.isLiteral arguments
  else Literal.isLiteral t

/-- The tag belongs to a handler, not to a style. -/
def Tag.isHandler (tag : Tag) : Bool := tag.name.head? = some (CodePoint.ofChar '@')

/-- The words of the style that a tag asks for. -/
def Tag.definition (tag : Tag) : Text :=
  match tag.parameters with
  | some parameters => tag.name ++ " " ++ parameters
  | none => tag.name

/-- A text that has been rendered up to some point: what is printed, and the tags that are open,
the innermost first. -/
structure Rendering where
  output : Text
  openTags : List Tag
  styles : List Text
deriving DecidableEq

/-- The name of a style, whichever way it is written. -/
def styleName (name : Text) : Except Fault Text :=
  match Style.normal name with
  | .ok name => .ok name
  | .error _ => .error .noNumber

/-- The innermost open tag, or the innermost with a given name, and the others. -/
def takeOpen? (name : Text) : List Tag → Option (Tag × List Tag)
  | [] => none
  | tag :: tags =>
    if name.isEmpty ∨ tag.name = name then some (tag, tags)
    else (takeOpen? name tags).map fun (found, others) => (found, tag :: others)

/-- A tag that closes another one. -/
def close (r : Rendering) (name : Text) : Except Fault Rendering := do
  let name ← if name.isEmpty then .ok [] else styleName name
  match takeOpen? name r.openTags with
  | none => .error .unopened
  | some (tag, others) =>
    if tag.isHandler then
      if hasGoodArguments (tag.parameters.getD []) then .ok { r with openTags := others }
      else .error .badArguments
    else .ok { r with openTags := others, styles := tag.definition :: r.styles }

/-- A rendering with one more piece. -/
def step (r : Rendering) : Piece → Except Fault Rendering
  | .plain t => .ok { r with output := r.output ++ shown (unescaped t) }
  | .literal t => .ok { r with output := r.output ++ shown t }
  | .tag tag =>
    match tag.name with
    | c :: rest =>
      if c = CodePoint.ofChar '/' then close r (Text.trim rest)
      else do
        let name ← styleName tag.name
        return { r with openTags := { tag with name := name } :: r.openTags }
    | [] => .ok r

/-- The style of some words has numbers where they are due. -/
def checkStyle (definition : Text) : Except Fault Unit :=
  match Style.parse definition with
  | .error .noNumber => .error .noNumber
  | _ => .ok ()

/-- The text without its markup. Tags may stay open. -/
def render (t : Text) : Except Fault Text := do
  let r ← (pieces t).foldlM step ⟨[], [], []⟩
  ((r.openTags.map Tag.definition) ++ r.styles).forM checkStyle
  return r.output

end Mailroom.Markup
