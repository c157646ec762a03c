import Mailroom.Charset.Gb18030
import Mailroom.Charset.Grid.Big5
import Mailroom.Charset.Grid.Gb2312
import Mailroom.Charset.Grid.Gbk
import Mailroom.Charset.Grid.HongKong

/-!
# Chinese character sets

* `ChineseCharset`: those in which ASCII stands for itself and a higher octet makes a
  character together with the octet after it, or with three;
* `ChineseCharset.decode?`: the text of some octets;
* `Hz.decode?`: the text of some octets in HZ, where marks of ASCII characters enclose the
  characters of GB 2312.
-/

namespace Mailroom

open Charset

/-- A Chinese character set. -/
inductive ChineseCharset where
  | gb2312
  | gbk
  | gb18030
  | big5
  | big5HongKong
  | windows950
deriving DecidableEq

namespace ChineseCharset

/-- The character of two octets in GB 2312. -/
def gb2312? (a b : Nat) : Option CodePoint := Charset.gb2312.at? (a - 0x80) (b - 0x80)

/-- The character of two octets in GBK. -/
def gbk? (a b : Nat) : Option CodePoint := (gbkOwn.at? a b).or (gb2312? a b)

/-- The cell in a row of Big5 that the second of two octets tells. -/
def big5Cell? (b : Nat) : Option Nat :=
  if 0x40 ≤ b && b ≤ 0x7E then some (b - 0x40)
  else if 0xA1 ≤ b && b ≤ 0xFE then some (b - 0xA1 + 63)
  else none

/-- The character of two octets in Big5. -/
def big5? (a b : Nat) : Option CodePoint := (big5Cell? b).bind (Charset.big5.at? a)

/-- Signs of Big5 that are other characters in its Windows form, and the euro sign. -/
def windows950Signs : List (Nat × Nat) := [
  (0xA145, 0x2027), (0xA14E, 0xFE51), (0xA1C2, 0x00AF), (0xA1E3, 0xFF5E), (0xA1F2, 0x2295),
  (0xA1F3, 0x2299), (0xA241, 0x2215), (0xA242, 0xFE68), (0xA244, 0xFFE5), (0xA246, 0xFFE0),
  (0xA247, 0xFFE1), (0xA3E1, 0x20AC)]

/-- The characters of the Windows form in the row 0xF9 from the cell 0xD6 on. -/
def windows950Row : String := "碁銹裏墻恒粧嫺╔╦╗╠╬╣╚╩╝╒╤╕╞╪╡╘╧╛╓╥╖╟╫╢╙╨╜║═╭╮╰╯▓"

/-- The character of two octets in the Windows form of Big5. -/
def windows950? (a b : Nat) : Option CodePoint :=
  if a = 0xF9 && 0xD6 ≤ b then windows950Row.toList[b - 0xD6]?.map CodePoint.ofChar
  else ((windows950Signs.lookup (a * 0x100 + b)).map CodePoint.ofNat).or (big5? a b)

/-- Two octets that stand for a letter with two marks. -/
def hongKongPairs : List (Nat × Nat × Nat) := [
  (0x8862, 0x00CA, 0x0304), (0x8864, 0x00CA, 0x030C), (0x88A3, 0x00EA, 0x0304),
  (0x88A5, 0x00EA, 0x030C)]

/-- The text of two octets in Big5 with the characters of Hong Kong. The rows from 0xC6A1 to
0xC8FE are those of Hong Kong alone. -/
def hongKong? (a b : Nat) : Option Text :=
  match hongKongPairs.lookup (a * 0x100 + b) with
  | some (letter, mark) => some [CodePoint.ofNat letter, CodePoint.ofNat mark]
  | none =>
    let own := (big5Cell? b).bind (Charset.hongKong.at? a)
    let common := if 0xC6A1 ≤ a * 0x100 + b && a ≤ 0xC8 then none else big5? a b
    (own.or common).map ([·])

/-- What stands at the beginning of octets of GB 18030, of which `a` is the first. A digit
as the second octet opens a sequence of four. -/
def readGb18030 (a : UInt8) (rest : Octets) : Piece :=
  if a.toNat < 0x80 then .char (CodePoint.ofNat a.toNat) 0
  else match rest with
    | [] => .bad 0
    | b :: rest =>
      if 0x30 ≤ b.toNat && b.toNat ≤ 0x39 then
        match rest with
        | c :: d :: _ =>
          .ofText? ((gb18030Sequence? a.toNat b.toNat c.toNat d.toNat).map ([·])) 3
        | short => .bad (1 + short.length)
      else
        .ofText? (((gbk? a.toNat b.toNat).or (gb18030Cell? a.toNat b.toNat)).map ([·])) 1

/-- What stands at the beginning of some octets. -/
def read : ChineseCharset → UInt8 → Octets → Piece
  | gb2312 => readPair fun a b => (gb2312? a b).map ([·])
  | gbk => readPair fun a b => (gbk? a b).map ([·])
  | gb18030 => readGb18030
  | big5 => readPair fun a b => (big5? a b).map ([·])
  | big5HongKong => readPair hongKong?
  | windows950 => readPair fun a b => (windows950? a b).map ([·])

/-- The text of some octets. -/
def decode? (charset : ChineseCharset) (octets : Octets) : Option Text :=
  decodeEach? charset.read octets

end ChineseCharset

namespace Hz

/-- What octets stand for at a place. -/
inductive Mode where
  | ascii
  /-- Two octets below 0x80 are a character of GB 2312. -/
  | pairs
deriving DecidableEq

/-- What stands at the beginning of octets of which `a` is the first. The mark `~\x7b` opens
the characters of GB 2312, `~\x7d` closes them, `~~` is a tilde, and a tilde at the end of a
line joins it with the next one. -/
def read (mode : Mode) (a : UInt8) (rest : Octets) : Piece × Mode :=
  if a.toNat = 0x7E then
    match mode, rest with
    | .ascii, 0x7E :: _ => (.char '~' 1, .ascii)
    | .ascii, 0x7B :: _ => (.text [] 1, .pairs)
    | .ascii, 0x0A :: _ => (.text [] 1, .ascii)
    | .pairs, 0x7D :: _ => (.text [] 1, .ascii)
    | _, _ => (.bad 0, mode)
  else if 0x80 ≤ a.toNat then (.bad 0, mode)
  else match mode, rest with
    | .ascii, _ => (.char (CodePoint.ofNat a.toNat) 0, .ascii)
    | .pairs, b :: _ => (.ofText? (Charset.gb2312.text? a.toNat b.toNat) 1, .pairs)
    | .pairs, [] => (.bad 0, .pairs)

/-- The text of some octets. -/
def decode? (octets : Octets) : Option Text := decodePieces? read .ascii octets

end Hz

end Mailroom
