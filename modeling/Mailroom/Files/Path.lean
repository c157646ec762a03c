import Mailroom.Text.Split

/-!
# Paths

* `Path`: a path cut at its slashes, without empty parts and parts that stay where they are;
* `Path.parse`, `Path.shown`: the path of a text, and the shortest text of a path.
-/

namespace Mailroom

/-- Where a path begins. Two slashes are kept apart from one. -/
inductive PathRoot where
  | here
  | slash
  | twoSlashes
deriving DecidableEq

/-- A path cut at its slashes. -/
structure Path where
  root : PathRoot
  parts : List Text
deriving DecidableEq

namespace Path

/-- The root of a text: three or more slashes are like one. -/
def rootOf (t : Text) : PathRoot :=
  match (t.takeWhile fun c => c.val == 0x2F).length with
  | 0 => .here
  | 2 => .twoSlashes
  | _ => .slash

/-- A part that leads somewhere. -/
def isStep (part : Text) : Bool := part ≠ [] && part ≠ Text.ofString "."

/-- The path of a text. -/
def parse (t : Text) : Path := ⟨rootOf t, (Text.splitOn '/' t).filter isStep⟩

/-- The text of a root. -/
def rootText : PathRoot → Text
  | .here => []
  | .slash => "/"
  | .twoSlashes => "//"

/-- The text of a path; a dot for a path that leads nowhere. -/
def shown (p : Path) : Text :=
  let t := rootText p.root ++ Text.join "/" p.parts
  if t.isEmpty then "." else t

end Path

end Mailroom
