import Mailroom.Header.Basic

/-!
# Reading headers

* `Header.parse`: the header of some lines, continuation lines put back in their places.
-/

namespace Mailroom

/-- A line that is no part of a header. -/
inductive LineFault where
  /-- A continuation with nothing to continue. -/
  | strayContinuation (line : Text)
  | malformed (line : Text)
deriving DecidableEq

/-- The wording of the error. -/
def LineFault.message : LineFault → Text
  | strayContinuation line =>
    "mail: malformed header: leading continuation line " ++ line.quoted
  | malformed line => "mail: malformed header line " ++ line.quoted

namespace Header

/-- The line goes on with the field before it. -/
def isContinuation (line : Text) : Bool := line.head?.any fun c => c.val == 0x20 || c.val == 0x09

/-- The name and value of a line that begins a field. -/
def splitLine (line : Text) : Except LineFault (Text × Text) :=
  match Text.cut? ':' line with
  | some (name, rest) =>
    if name.isEmpty || name != name.trim || name.any (fun c => c.val == 0x20 || c.val == 0x09) then
      .error (.malformed line)
    else .ok (name, rest.trim)
  | none => .error (.malformed line)

/-- Names and values, given the field whose continuation lines are being looked for. -/
def unfoldLines : Option (Text × Text) → List Text → Except LineFault (List (Text × Text))
  | pending, [] => .ok pending.toList
  | pending, line :: lines =>
    if isContinuation line then
      match pending with
      | none => .error (.strayContinuation line)
      | some (name, value) =>
        let longer := if value.isEmpty then line.trim else value ++ " " ++ line.trim
        unfoldLines (some (name, longer)) lines
    else do
      let next ← splitLine line
      let rest ← unfoldLines (some next) lines
      return pending.toList ++ rest

/-- The header of some lines. -/
def parse (lines : List Text) : Except LineFault Header := do
  let fields ← unfoldLines none lines
  return { ofFields (fields.map fun (name, value) => (name, [value])) with
    revision := fields.length }

@[simp] theorem parse_nil : parse [] = .ok empty := rfl

end Header

end Mailroom
