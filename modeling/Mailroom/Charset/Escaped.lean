import Mailroom.Charset.Piece
import Mailroom.Text.CharacterName

/-!
# Text with backslash escapes

An octet is the code point of its number, and a backslash opens an escape for any other one.

* `Escaped.decode?`: the text of some octets with all escapes;
* `Escaped.decodeRaw?`: the text of some octets in which only `\u` and `\U` are escapes.
-/

namespace Mailroom.Escaped

open Charset

/-- The code point of a number of hexadecimal digits at the beginning of some octets. -/
def hexadecimal? (count : Nat) (octets : Octets) : Option CodePoint :=
  let digits := (octets.take count).map fun b => CodePoint.ofNat b.toNat
  if digits.length = count then (Text.hexNumber? digits).bind CodePoint.ofNat? else none

/-- An escape of a letter and a number of hexadecimal digits, which stand in `octets`. -/
def numbered (count : Nat) (octets : Octets) : Piece :=
  .ofText? ((hexadecimal? count octets).map ([·])) (1 + count)

/-- Up to three octal digits at the beginning of some octets. -/
def octalDigits (octets : Octets) : List Nat :=
  ((octets.take 3).takeWhile fun b => 0x30 ≤ b.toNat && b.toNat ≤ 0x37).map (·.toNat - 0x30)

/-- The character of a name in braces, which stands in `octets` after the letter `N`. -/
def named (octets : Octets) : Piece :=
  match octets with
  | 0x7B :: rest =>
    let name := rest.takeWhile (·.toNat ≠ 0x7D)
    if name.length < rest.length then
      .ofText? ((CodePoint.named? (name.map fun b => CodePoint.ofNat b.toNat)).map ([·]))
        (name.length + 3)
    else .bad 0
  | _ => .bad 0

/-- The code points of escapes of one letter. -/
def letters : List (Nat × Nat) := [
  (0x5C, 0x5C), (0x27, 0x27), (0x22, 0x22), (0x61, 0x07), (0x62, 0x08), (0x66, 0x0C),
  (0x6E, 0x0A), (0x72, 0x0D), (0x74, 0x09), (0x76, 0x0B)]

/-- An escape, given the octets after the backslash. A letter that has no meaning keeps its
backslash, and a line end is left out. -/
def readEscape : Octets → Piece
  | [] => .bad 0
  | a :: rest =>
    let n := a.toNat
    if n = 0x0A then .text [] 1
    else match letters.lookup n with
      | some point => .char (CodePoint.ofNat point) 1
      | none =>
        let digits := octalDigits (a :: rest)
        if !digits.isEmpty then
          .char (CodePoint.ofNat (digits.foldl (fun m d => m * 8 + d) 0)) digits.length
        else if n = 0x78 then numbered 2 rest
        else if n = 0x75 then numbered 4 rest
        else if n = 0x55 then numbered 8 rest
        else if n = 0x4E then named rest
        else .text [CodePoint.ofChar '\\', CodePoint.ofNat n] 1

/-- An escape among those of numbers alone. A backslash before any other octet is itself, and
so is that octet, even if it is a backslash. -/
def readRawEscape : Octets → Piece
  | [] => .char '\\' 0
  | a :: rest =>
    if a.toNat = 0x75 then numbered 4 rest
    else if a.toNat = 0x55 then numbered 8 rest
    else .text [CodePoint.ofChar '\\', CodePoint.ofNat a.toNat] 1

/-- What stands at the beginning of some octets, given how an escape is read. -/
def read (escape : Octets → Piece) (a : UInt8) (rest : Octets) : Piece :=
  if a.toNat = 0x5C then escape rest else .char (CodePoint.ofNat a.toNat) 0

/-- The text of some octets with all escapes. -/
def decode? (octets : Octets) : Option Text := decodeEach? (read readEscape) octets

/-- The text of some octets with escapes of numbers alone. -/
def decodeRaw? (octets : Octets) : Option Text := decodeEach? (read readRawEscape) octets

end Mailroom.Escaped
