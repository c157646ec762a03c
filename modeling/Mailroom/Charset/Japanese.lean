import Mailroom.Charset.Grid.JisX0208
import Mailroom.Charset.Grid.JisX0212
import Mailroom.Charset.Grid.JisX0213
import Mailroom.Charset.Grid.Windows932
import Mailroom.Charset.Piece

/-!
# Japanese character sets

The standards JIS X 0208, JIS X 0212 and JIS X 0213 number rows and cells from 0x21 on. EUC
adds 0x80 to both numbers. Shift JIS has two rows for one first octet, and leaves room for
the katakana of half width.

* `Jis.plane1?`, `Jis.plane2?`: the text of a cell in the two planes of JIS X 0213;
* `JapaneseCharset`: the character sets without escape sequences;
* `JapaneseCharset.decode?`: the text of some octets.
-/

namespace Mailroom

open Charset

/-- The edition of JIS X 0213. -/
inductive JisEdition where
  | of2000
  | of2004
deriving DecidableEq

namespace Jis

/-- The letters of one octet in JIS X 0201: ASCII with a yen sign and an overline. -/
def roman (n : Nat) : CodePoint :=
  if n = 0x5C then CodePoint.ofNat 0xA5
  else if n = 0x7E then CodePoint.ofNat 0x203E
  else CodePoint.ofNat n

/-- The katakana of half width, which have the octets from 0xA1 to 0xDF. -/
def katakana? (n : Nat) : Option CodePoint :=
  if 0xA1 ≤ n && n ≤ 0xDF then some (CodePoint.ofNat (0xFEC0 + n)) else none

/-- Cells of the first plane that came with the edition of 2004. -/
def plane1Of2004 : List Nat :=
  [0x2E21, 0x2F7E, 0x4F54, 0x4F7E, 0x7427, 0x7E7A, 0x7E7B, 0x7E7C, 0x7E7D, 0x7E7E]

/-- The edition leaves a cell of the first plane free that a later one fills. -/
def leavesFree (edition : JisEdition) (row cell : Nat) : Bool :=
  edition = .of2000 && plane1Of2004.contains (row * 0x100 + cell)

/-- The text of a cell in the first plane of JIS X 0213, which has all of JIS X 0208. -/
def plane1? (edition : JisEdition) (row cell : Nat) : Option Text :=
  if leavesFree edition row cell then none
  else match jisX0213Pairs.lookup (row * 0x100 + cell) with
    | some (first, second) => some [CodePoint.ofNat first, CodePoint.ofNat second]
    | none => ((jisX0208.at? row cell).or (jisX0213First.at? row cell)).map ([·])

/-- The character of a cell in the second plane of JIS X 0213. The editions differ in one. -/
def plane2? (edition : JisEdition) (row cell : Nat) : Option CodePoint :=
  if edition = .of2000 && row = 0x7D && cell = 0x3B then some (CodePoint.ofNat 0x9B1D)
  else jisX0213Second.at? row cell

end Jis

/-- A Japanese character set. -/
inductive JapaneseCharset where
  | shiftJis
  | windows932
  | shiftJisX0213 (edition : JisEdition)
  | euc
  | eucJisX0213 (edition : JisEdition)
deriving DecidableEq

namespace JapaneseCharset

/-- The place of the second octet of Shift JIS in two rows of 94 cells. -/
def shiftPlace? (b : Nat) : Option Nat :=
  if 0x40 ≤ b && b ≤ 0x7E then some (b - 0x40)
  else if 0x80 ≤ b && b ≤ 0xFC then some (b - 0x41)
  else none

/-- The number of the row, counted from nought, and of the cell that two octets of Shift JIS
tell. -/
def shiftCell? (a b : Nat) : Option (Nat × Nat) :=
  if (0x81 ≤ a && a ≤ 0x9F) || (0xE0 ≤ a && a ≤ 0xFC) then
    (shiftPlace? b).map fun place =>
      (2 * (if a < 0xE0 then a - 0x81 else a - 0xC1) + place / 94, place % 94 + 0x21)
  else none

/-- What stands at the beginning in Shift JIS, given the meaning of one octet alone, and of
two octets. -/
def readShift (single? : Nat → Option CodePoint) (pair : Nat → Nat → Piece) (a : UInt8)
    (rest : Octets) : Piece :=
  match single? a.toNat with
  | some c => .char c 0
  | none => match rest with
    | b :: _ => pair a.toNat b.toNat
    | [] => .bad 0

/-- Two octets of Shift JIS. -/
def shiftJisPair (a b : Nat) : Piece :=
  .ofText? ((shiftCell? a b).bind fun (row, cell) => jisX0208.text? (row + 0x21) cell) 1

/-- One octet in Shift JIS with ASCII. -/
def shiftJisSingle? (n : Nat) : Option CodePoint :=
  if n < 0x80 then some (CodePoint.ofNat n) else Jis.katakana? n

/-- One octet in the Windows form of Shift JIS. -/
def windows932Single? (n : Nat) : Option CodePoint :=
  if n ≤ 0x80 then some (CodePoint.ofNat n)
  else if n = 0xA0 then some (CodePoint.ofNat 0xF8F0)
  else if 0xFD ≤ n then some (CodePoint.ofNat (0xF8F1 + (n - 0xFD)))
  else Jis.katakana? n

/-- Two octets in the Windows form of Shift JIS, which has ten rows for private use. -/
def windows932Pair (a b : Nat) : Piece :=
  match (shiftPlace? b).bind (windows932Own.at? a) with
  | some c => .char c 1
  | none =>
    if 0xF0 ≤ a && a ≤ 0xF9 then
      .ofText? ((shiftPlace? b).map fun place =>
        [CodePoint.ofNat (0xE000 + 188 * (a - 0xF0) + place)]) 1
    else shiftJisPair a b

/-- One octet in Shift JIS with JIS X 0213. -/
def shiftJisX0213Single? (n : Nat) : Option CodePoint :=
  if n < 0x80 then some (Jis.roman n) else Jis.katakana? n

/-- The row of the second plane of JIS X 0213 for a row of Shift JIS behind the first plane. -/
def plane2Row (row : Nat) : Nat :=
  if 0x67 ≤ row then row + 7
  else if 0x63 ≤ row || row = 0x5F then row - 0x37
  else row - 0x3D

/-- Two octets in Shift JIS with JIS X 0213. The backslash and the tilde of ASCII, which no
single octet stands for, have the cells of their wide forms. -/
def shiftJisX0213Pair (edition : JisEdition) (a b : Nat) : Piece :=
  match shiftCell? a b with
  | none => .bad 0
  | some (row, cell) =>
    if row < 0x5E then
      if Jis.leavesFree edition (row + 0x21) cell then .bad 1
      else if row = 0 && cell = 0x40 then .char '\\' 1
      else if row = 1 && cell = 0x32 then .char '~' 1
      else .ofText? (Jis.plane1? edition (row + 0x21) cell) 1
    else .ofText? ((Jis.plane2? edition (plane2Row row) cell).map ([·])) 1

/-- What stands at the beginning in EUC, of which `a` is the first octet, given the meaning
of two octets, and of two octets after 0x8F. The octet 0x8E goes before one of katakana. -/
def readEuc (pair triple : Nat → Nat → Piece) (a : UInt8) (rest : Octets) : Piece :=
  if a.toNat < 0x80 then .char (CodePoint.ofNat a.toNat) 0
  else if a.toNat = 0x8E then
    match rest with
    | b :: _ => .ofText? ((Jis.katakana? b.toNat).map ([·])) 1
    | [] => .bad 0
  else if a.toNat = 0x8F then
    match rest with
    | b :: c :: _ => triple (b.toNat - 0x80) (c.toNat - 0x80)
    | short => .bad short.length
  else match rest with
    | b :: _ => pair (a.toNat - 0x80) (b.toNat - 0x80)
    | [] => .bad 0

/-- Two octets of EUC with JIS X 0213. -/
def eucJisX0213Pair (edition : JisEdition) (row cell : Nat) : Piece :=
  if Jis.leavesFree edition row cell then .bad 1
  else .ofText? (Jis.plane1? edition row cell) 1

/-- Two octets of EUC after 0x8F in the second plane of JIS X 0213, or else in JIS X 0212. -/
def eucJisX0213Triple (edition : JisEdition) (row cell : Nat) : Piece :=
  .ofText? (((Jis.plane2? edition row cell).or (jisX0212.at? row cell)).map ([·])) 2

/-- What stands at the beginning of some octets. -/
def read : JapaneseCharset → UInt8 → Octets → Piece
  | shiftJis => readShift shiftJisSingle? shiftJisPair
  | windows932 => readShift windows932Single? windows932Pair
  | shiftJisX0213 edition => readShift shiftJisX0213Single? (shiftJisX0213Pair edition)
  | euc => readEuc (fun row cell => .ofText? (jisX0208.text? row cell) 1)
      fun row cell => .ofText? (jisX0212.text? row cell) 2
  | eucJisX0213 edition => readEuc (eucJisX0213Pair edition) (eucJisX0213Triple edition)

/-- The text of some octets. -/
def decode? (charset : JapaneseCharset) (octets : Octets) : Option Text :=
  decodeEach? charset.read octets

end JapaneseCharset

end Mailroom
