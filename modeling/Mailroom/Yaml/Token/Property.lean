import Mailroom.Text.Utf8
import Mailroom.Yaml.Cursor
import Mailroom.Yaml.Token

/-!
# Names, marks of kinds, and directives

* `Property.takeName`: the name of an anchor or alias;
* `Property.takeTag`: the mark for the kind of a node;
* `Property.takeDirective`: a directive, up to the end of its line.
-/

namespace Mailroom.Yaml.Property

/-- An ASCII letter or digit, a hyphen or a low line. -/
def isNameChar (c : CodePoint) : Bool :=
  c.isAsciiLetter || c.isAsciiDigit || c.val == 0x2D || c.val == 0x5F

/-- The marks that may follow a name. -/
def nameEnds : Text := "?:,]\x7d%@\x60"

/-- The name behind the mark of an anchor or alias. -/
def takeName (c : Cursor) : Except Fault (Text × Cursor) :=
  let (name, c) := c.step.takeWhile isNameChar
  if name.isEmpty then .error .malformed
  else if endsMark c.peek || c.sees nameEnds.contains then .ok (name, c)
  else .error .malformed

/-- The signs that may occur in the name of a kind, besides letters, digits, hyphens and
escapes. -/
def uriSigns : Text := ";/?:@&=+$,_.!~*'()[]"

/-- A code point of the name of a kind. -/
def isUriChar (c : CodePoint) : Bool :=
  c.isAsciiLetter || c.isAsciiDigit || c.val == 0x2D || uriSigns.contains c

/-- The octets of escapes in a row, with what follows them. -/
def takeEscapes : Text → Except Fault (Octets × Text)
  | p :: a :: b :: t =>
    if p.val == 0x25 then
      match Text.hexNumber? [a, b] with
      | some n => (takeEscapes t).map fun (octets, rest) => (UInt8.ofNat n :: octets, rest)
      | none => .error .malformed
    else .ok ([], p :: a :: b :: t)
  | p :: t => if p.val == 0x25 then .error .malformed else .ok ([], p :: t)
  | [] => .ok ([], [])

/-- The name of a kind; escapes in a row are one piece of UTF-8. -/
def takeUriFrom : Nat → Cursor → Except Fault (Text × Cursor)
  | 0, c => .ok ([], c)
  | fuel + 1, c => do
    let (first, c) := c.takeWhile isUriChar
    if c.at? '%' then
      let (octets, rest) ← takeEscapes c.rest
      match Utf8.decode? octets with
      | none => throw .malformed
      | some text =>
        let (more, c) ← takeUriFrom fuel (c.forward (c.rest.length - rest.length))
        return (first ++ text ++ more, c)
    else return (first, c)

/-- The name of a kind, which is not empty. -/
def takeUri (c : Cursor) : Except Fault (Text × Cursor) := do
  if c.sees fun d => isUriChar d || d.val == 0x25 then takeUriFrom (c.rest.length + 1) c
  else throw .malformed

/-- A handle: one exclamation mark, or a name between two. -/
def takeHandle (c : Cursor) : Except Fault (Text × Cursor) :=
  if !c.at? '!' then .error .malformed
  else if c.step.at? ' ' then .ok ([CodePoint.ofChar '!'], c.step)
  else
    let (name, c) := c.step.takeWhile isNameChar
    if c.at? '!' then .ok ([CodePoint.ofChar '!'] ++ name ++ [CodePoint.ofChar '!'], c.step)
    else .error .malformed

/-- What the mark for a kind consists of. -/
def takeShorthand (c : Cursor) : Except Fault (Shorthand × Cursor) :=
  let next := c.step
  if next.at? '<' then do
    let (name, c) ← takeUri next.step
    if c.at? '>' then return (⟨none, name⟩, c.step) else throw .malformed
  else if endsMark next.peek then .ok (⟨none, [CodePoint.ofChar '!']⟩, next)
  else do
    let word := next.rest.takeWhile fun d => !(isSpace d || isBreak d)
    let (handle, c) ←
      if word.contains (CodePoint.ofChar '!') then takeHandle c
      else pure ([CodePoint.ofChar '!'], next)
    let (suffix, c) ← takeUri c
    return (⟨some handle, suffix⟩, c)

/-- The mark for the kind of a node, which has to be followed by a blank. -/
def takeTag (c : Cursor) : Except Fault (Shorthand × Cursor) := do
  let (shorthand, c) ← takeShorthand c
  if endsWord c.peek then return (shorthand, c) else throw .malformed

/-- How many digits a version may have. -/
def digitLimit : Nat := 4300

/-- The number at a place. -/
def takeNumber (c : Cursor) : Except Fault (Nat × Cursor) :=
  let (digits, c) := c.takeWhile CodePoint.isAsciiDigit
  if digits.isEmpty then .error .malformed
  else if digitLimit < digits.length then .error (.breakdown .outOfRange)
  else .ok (digits.foldl (fun n d => n * 10 + (d.val - 0x30)) 0, c)

/-- The version of the language: two numbers with a point between them. -/
def takeVersion (c : Cursor) : Except Fault (Directive × Cursor) := do
  let (major, c) ← takeNumber (c.skipWhile isSpace)
  if !c.at? '.' then throw .malformed
  else
    let (_, c) ← takeNumber c.step
    if endsWord c.peek then return (.version major, c) else throw .malformed

/-- A handle and what it stands for. -/
def takeHandleDirective (c : Cursor) : Except Fault (Directive × Cursor) := do
  let (handle, c) ← takeHandle (c.skipWhile isSpace)
  if !c.at? ' ' then throw .malformed
  else
    let (leading, c) ← takeUri (c.skipWhile isSpace)
    if endsWord c.peek then return (.handle handle leading, c) else throw .malformed

/-- What a directive of some name says. -/
def takeDirectiveOf (name : Text) (c : Cursor) : Except Fault (Directive × Cursor) :=
  if name = Text.ofString "YAML" then takeVersion c
  else if name = Text.ofString "TAG" then takeHandleDirective c
  else .ok (.other, c.skipWhile fun d => !isBreak d)

/-- A directive, up to the end of its line. -/
def takeDirective (c : Cursor) : Except Fault (Directive × Cursor) := do
  let (name, c) := c.step.takeWhile isNameChar
  if name.isEmpty || !endsWord c.peek then throw .malformed
  else
    let (directive, c) ← takeDirectiveOf name c
    let c := c.skipComment
    if endsLine c.peek then return (directive, c.lineBreak.2) else throw .malformed

end Mailroom.Yaml.Property
