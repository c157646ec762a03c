import Mailroom.Header.Basic

/-!
# Writing headers

* `Header.write?`: the octets of a header. Each field is one line with its first value, the
  fields come in order of their names, and `Bcc` is never written.
-/

namespace Mailroom.Header

/-- The field names the recipients that nobody else may see. -/
def isHidden (name : Text) : Bool := Text.lower name = Text.ofString "bcc"

/-- The line of a field. -/
def line (f : Field) : Text := f.name ++ ": " ++ f.first

/-- The lines that are written. -/
def lines (h : Header) : List Text := (h.sorted.filter fun f => !isHidden f.name).map line

/-- The octets of a header, unless a line has a surrogate that holds no octet. -/
def write? (h : Header) : Option Octets := Utf8.encode? (Text.join "\r\n" h.lines)

@[simp] theorem write?_empty : write? empty = some [] := rfl

end Mailroom.Header
