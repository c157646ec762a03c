import Mailroom.Charset.Grid.Gb2312
import Mailroom.Charset.Grid.KsX1001
import Mailroom.Charset.Japanese

/-!
# Character sets switched by escape sequences

In ISO 2022 an escape sequence designates a repertoire of characters, and the octets after it
tell its cells. Three repertoires can be designated at a time: one is in use, one comes into
use between the controls SO and SI, and one is used for a single character after ESC N.

* `Repertoire`: what can be designated;
* `Iso2022Charset`: the repertoires of a character set and its other means;
* `Iso2022Charset.State`: what is designated, and what is in use;
* `Iso2022Charset.read`: what stands at the beginning of some octets;
* `Iso2022Charset.decode?`: the text of some octets.
-/

namespace Mailroom

open Charset

/-- Characters that an escape sequence designates. -/
inductive Repertoire where
  | ascii
  | roman
  | katakana
  | latin1
  | greek
  | jisX0208
  | jisX0212
  | jisX0213First (edition : JisEdition)
  | jisX0213Second (edition : JisEdition)
  | gb2312
  | ksX1001
deriving DecidableEq

namespace Repertoire

/-- The character of one octet below 0x80. There is none in the repertoires that are used
for single characters only. -/
def single? : Repertoire → Nat → Option CodePoint
  | roman, n => some (Jis.roman n)
  | katakana, n => Jis.katakana? (n + 0x80)
  | _, _ => none

/-- The text of two octets below 0x80. -/
def pair? : Repertoire → Nat → Nat → Option Text
  | jisX0208, a, b => Charset.jisX0208.text? a b
  | jisX0212, a, b => Charset.jisX0212.text? a b
  | jisX0213First edition, a, b =>
    if a = 0x22 && b = 0x32 then some [CodePoint.ofChar '~'] else Jis.plane1? edition a b
  | jisX0213Second edition, a, b => (Jis.plane2? edition a b).map ([·])
  | gb2312, a, b => Charset.gb2312.text? a b
  | ksX1001, a, b => Charset.ksX1001.text? a b
  | _, _, _ => none

/-- One octet is a character of the repertoire. -/
def isSingle : Repertoire → Bool
  | ascii | roman | katakana | latin1 | greek => true
  | _ => false

/-- Upper half of ISO 8859-7 in its first edition, from 0xA0 on. -/
def greekHalf : String :=
  "\u00a0‘’£  ¦§¨© «¬\u00ad ―°±²³΄΅Ά·ΈΉΊ»Ό½ΎΏ" ++
  "ΐΑΒΓΔΕΖΗΘΙΚΛΜΝΞΟΠΡ ΣΤΥΦΧΨΩΪΫάέήίΰαβγδεζηθικλμνξοπρςστυφχψωϊϋόύώ "

/-- The character of an octet that follows ESC N. -/
def afterShift? : Repertoire → Nat → Option CodePoint
  | ascii, n => if n < 0x80 then some (CodePoint.ofNat n) else none
  | latin1, n => if n < 0x80 then some (CodePoint.ofNat (n + 0x80)) else none
  | greek, n =>
    if 0x80 ≤ n then some (CodePoint.ofNat (n - 0x80))
    else if n < 0x20 then some (CodePoint.ofNat (n + 0x80))
    else match greekHalf.toList[n - 0x20]? with
      | some c => if c = ' ' then none else some (CodePoint.ofChar c)
      | none => none
  | _, _ => none

end Repertoire

/-- A repertoire with the octet that ends its escape sequence. -/
abbrev Designation := UInt8 × Repertoire

/-- A character set with escape sequences. -/
structure Iso2022Charset where
  /-- What can be designated besides ASCII. -/
  designations : List Designation
  /-- SO and SI change the repertoire in use. Elsewhere they are controls like any other. -/
  shifts : Bool
  /-- A repertoire can be designated for single characters. -/
  singleShift : Bool
deriving DecidableEq

namespace Iso2022Charset

/-- What is designated, and how the next octets are read. -/
structure State where
  inUse : Repertoire
  shifted : Repertoire
  single : Repertoire
  /-- SO came last. -/
  isShifted : Bool
  /-- Inside of an escape sequence that does not designate anything. -/
  isForeign : Bool
deriving DecidableEq

/-- ASCII everywhere. -/
def State.start : State := ⟨.ascii, .ascii, .ascii, false, false⟩

/-- The octet ends an escape sequence. -/
def isFinal (b : UInt8) : Bool := b.toNat = 0x40 || (0x41 ≤ b.toNat && b.toNat ≤ 0x5A)

/-- The repertoire of one or two octets that an escape sequence with this end designates. -/
def repertoire? (charset : Iso2022Charset) (isSingle : Bool) (final : UInt8) :
    Option Repertoire :=
  if isSingle && final = 0x42 then some .ascii
  else (charset.designations.find? fun (end_, repertoire) =>
    end_ = final && repertoire.isSingle = isSingle).map (·.2)

/-- The octets after ESC up to the end of the sequence, of at most fifteen. The octets `&@`
and the one behind them are passed over, where the character set has no shifts. -/
def sequence? (passes : Bool) : Nat → Octets → Option Octets
  | 0, _ => none
  | _, [] => none
  | fuel + 1, b :: rest =>
    if isFinal b then some [b]
    else if passes && b.toNat = 0x26 && rest.head? = some 0x40 then
      match fuel, rest with
      | fuel' + 2, at_ :: behind :: rest' =>
        (sequence? passes fuel' rest').map (b :: at_ :: behind :: ·)
      | _, _ => none
    else (sequence? passes fuel rest).map (b :: ·)

/-- What an escape sequence designates, given the octets after ESC. -/
def designate? (charset : Iso2022Charset) (state : State) : Octets → Option State
  | [0x24, final] => (charset.repertoire? false final).map fun r => { state with inUse := r }
  | [0x28, final] => (charset.repertoire? true final).map fun r => { state with inUse := r }
  | [0x29, final] => (charset.repertoire? true final).map fun r => { state with shifted := r }
  | [0x2E, final] =>
    if charset.singleShift then
      (charset.repertoire? true final).map fun r => { state with single := r }
    else none
  | [0x24, 0x28, final] => (charset.repertoire? false final).map fun r => { state with inUse := r }
  | [0x24, 0x29, final] =>
    (charset.repertoire? false final).map fun r => { state with shifted := r }
  | [_, _, 0x1B, 0x24, 0x42] =>
    if charset.shifts then none
    else (charset.repertoire? false 0x42).map fun r => { state with inUse := r }
  | _ => none

/-- What stands behind an octet ESC. A sequence that designates nothing for want of the
octets `$ & ( ) .` at its beginning is text. -/
def readEscape (charset : Iso2022Charset) (state : State) (rest : Octets) : Piece × State :=
  match rest with
  | [] => (.bad 0, state)
  | b :: rest' =>
    if [0x24, 0x26, 0x28, 0x29, 0x2E].contains b then
      match sequence? (!charset.shifts) 15 rest with
      | some octets =>
        match charset.designate? state octets with
        | some next => (.text [] octets.length, next)
        | none => (.bad 0, state)
      | none => (.bad 0, state)
    else if charset.singleShift && b.toNat = 0x4E then
      match rest'.head?.bind fun c => state.single.afterShift? c.toNat with
      | some c => (.char c 2, state)
      | none => (.bad 0, state)
    else (.char (CodePoint.ofNat 0x1B) 0, { state with isForeign := true })

/-- What stands at the beginning of octets of which `a` is the first. -/
def read (charset : Iso2022Charset) (state : State) (a : UInt8) (rest : Octets) : Piece × State :=
  let itself : Piece := .char (CodePoint.ofNat a.toNat) 0
  if state.isForeign then (itself, { state with isForeign := !isFinal a })
  else if a.toNat = 0x1B then charset.readEscape state rest
  else if charset.shifts && a.toNat = 0x0E then (.text [] 0, { state with isShifted := true })
  else if charset.shifts && a.toNat = 0x0F then (.text [] 0, { state with isShifted := false })
  else if a.toNat = 0x0A then (itself, { state with isShifted := false })
  else if a.toNat < 0x20 then (itself, state)
  else if 0x80 ≤ a.toNat then (.bad 0, state)
  else
    let repertoire := if state.isShifted then state.shifted else state.inUse
    let piece : Piece :=
      if repertoire = .ascii then itself
      else if repertoire.isSingle then
        .ofText? ((repertoire.single? a.toNat).map ([·])) 0
      else match rest with
        | b :: _ => .ofText? (repertoire.pair? a.toNat b.toNat) 1
        | [] => .bad 0
    (piece, state)

/-- The text of some octets. -/
def decode? (charset : Iso2022Charset) (octets : Octets) : Option Text :=
  decodePieces? charset.read .start octets

/-- Two octets that designate JIS X 0208 in its two editions. -/
def jisX0208 : List Designation := [(0x42, .jisX0208), (0x40, .jisX0208)]

/-- Japanese. -/
def japanese : Iso2022Charset := ⟨jisX0208 ++ [(0x4A, .roman)], false, false⟩

/-- Japanese with the characters of JIS X 0212. -/
def japanese1 : Iso2022Charset :=
  ⟨jisX0208 ++ [(0x4A, .roman), (0x44, .jisX0212)], false, false⟩

/-- Japanese with Korean, Chinese, and letters of Western Europe and Greece. -/
def japanese2 : Iso2022Charset :=
  ⟨jisX0208 ++ [(0x4A, .roman), (0x44, .jisX0212), (0x43, .ksX1001), (0x41, .gb2312),
    (0x41, .latin1), (0x46, .greek)], false, true⟩

/-- Japanese with JIS X 0213 in its edition of 2000. -/
def japanese3 : Iso2022Charset :=
  ⟨[(0x42, .jisX0208), (0x4F, .jisX0213First .of2000), (0x50, .jisX0213Second .of2000)],
    false, false⟩

/-- Japanese with JIS X 0213 in its edition of 2004. -/
def japanese2004 : Iso2022Charset :=
  ⟨[(0x42, .jisX0208), (0x51, .jisX0213First .of2004), (0x50, .jisX0213Second .of2004)],
    false, false⟩

/-- Japanese with JIS X 0212 and the katakana of half width. -/
def japaneseExtended : Iso2022Charset :=
  ⟨jisX0208 ++ [(0x4A, .roman), (0x44, .jisX0212), (0x49, .katakana)], false, false⟩

/-- Korean. -/
def korean : Iso2022Charset := ⟨[(0x43, .ksX1001)], true, false⟩

end Iso2022Charset

end Mailroom
