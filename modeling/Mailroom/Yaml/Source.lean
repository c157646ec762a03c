import Mailroom.Text.Utf8
import Mailroom.Yaml.Fault

/-!
# Texts that may be YAML

* `Yaml.source`: the text of some octets, with one kind of line end, if it holds no code
  points that are not allowed.
-/

namespace Mailroom.Yaml

/-- Code points that may occur: no controls but tab and line ends, no surrogates and none of
the last two of the basic plane. -/
def isAllowed (c : CodePoint) : Bool :=
  c.val == 0x09 || c.val == 0x0A || c.within 0x20 0x7E || c.val == 0x85 || c.within 0xA0 0xD7FF
    || c.within 0xE000 0xFFFD || c.within 0x10000 0x10FFFF

/-- The text with line feeds in place of carriage returns and of pairs of both. -/
def unifyLineEnds : Text → Text
  | [] => []
  | c :: t =>
    if c.val == 0x0D then
      CodePoint.ofChar '\n' :: match t with
        | [] => []
        | d :: t => if d.val == 0x0A then unifyLineEnds t else unifyLineEnds (d :: t)
    else c :: unifyLineEnds t

/-- The text of some octets, if it may be YAML. -/
def source (octets : Octets) : Except Fault Text :=
  match Utf8.decode? octets with
  | none => .error (.breakdown .undecodable)
  | some text =>
    let text := unifyLineEnds text
    if text.all isAllowed then .ok text else .error .malformed

@[simp] theorem source_nil : source [] = .ok [] := rfl

end Mailroom.Yaml
