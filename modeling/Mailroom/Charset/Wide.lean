import Mailroom.Charset.Piece

/-!
# Character sets with units of two or four octets

Sixteen bits are one code point, or half of a surrogate pair; thirty-two bits are always
one code point. The units are written with either end first, and the byte order mark U+FEFF
at the beginning says which where the name of the character set does not.

* `WideCharset`: the width of a unit, and the order of its octets if the name fixes it;
* `WideCharset.read`: what stands at the beginning of some octets;
* `WideCharset.decode?`: the text of some octets.
-/

namespace Mailroom

open Charset (Piece decodeEach?)

/-- Which octet of a unit comes first. -/
inductive OctetOrder where
  | littleFirst
  | bigFirst
deriving DecidableEq

/-- How many octets a unit has. -/
inductive UnitWidth where
  | two
  | four
deriving DecidableEq

/-- A character set with units of several octets. -/
structure WideCharset where
  width : UnitWidth
  /-- The order of octets, unless a mark in the octets has to tell it. -/
  order? : Option OctetOrder

namespace WideCharset

/-- The number of a unit of two octets. -/
def unit : OctetOrder → UInt8 → UInt8 → Nat
  | .littleFirst, a, b => b.toNat * 0x100 + a.toNat
  | .bigFirst, a, b => a.toNat * 0x100 + b.toNat

/-- The number is the first half of a surrogate pair. -/
def isFirstHalf (n : Nat) : Bool := decide (0xD800 ≤ n) && decide (n < 0xDC00)

/-- The number is the second half of a surrogate pair. -/
def isSecondHalf (n : Nat) : Bool := decide (0xDC00 ≤ n) && decide (n < 0xE000)

/-- What stands at the beginning in units of two octets, the octet `a` being the first. -/
def readTwo (order : OctetOrder) (a : UInt8) : Octets → Piece
  | [] => .bad 0
  | b :: rest =>
    let high := unit order a b
    if isFirstHalf high then
      match rest with
      | c :: d :: _ =>
        let low := unit order c d
        if isSecondHalf low then
          .char (CodePoint.ofNat (0x10000 + (high - 0xD800) * 0x400 + (low - 0xDC00))) 3
        else .bad 1
      | short => .bad (1 + short.length)
    else if isSecondHalf high then .bad 1
    else .char (CodePoint.ofNat high) 1

/-- What stands at the beginning in units of four octets, the octet `a` being the first. -/
def readFour (order : OctetOrder) (a : UInt8) : Octets → Piece
  | b :: c :: d :: _ =>
    let n := match order with
      | .littleFirst => unit order c d * 0x10000 + unit order a b
      | .bigFirst => unit order a b * 0x10000 + unit order c d
    match CodePoint.ofNat? n with
    | some point => if point.isSurrogate then .bad 3 else .char point 3
    | none => .bad 3
  | short => .bad short.length

/-- What stands at the beginning of octets of which `a` is the first. -/
def read (width : UnitWidth) (order : OctetOrder) (a : UInt8) (rest : Octets) : Piece :=
  match width with
  | .two => readTwo order a rest
  | .four => readFour order a rest

/-- The text of octets in a known order. -/
def decodeOrdered? (width : UnitWidth) (order : OctetOrder) (octets : Octets) : Option Text :=
  decodeEach? (read width order) octets

/-- The order that a mark at the beginning tells, with the octets after the mark. Without a
mark the smallest octet comes first. -/
def marked : UnitWidth → Octets → OctetOrder × Octets
  | .two, 0xFF :: 0xFE :: rest => (.littleFirst, rest)
  | .two, 0xFE :: 0xFF :: rest => (.bigFirst, rest)
  | .four, 0xFF :: 0xFE :: 0x00 :: 0x00 :: rest => (.littleFirst, rest)
  | .four, 0x00 :: 0x00 :: 0xFE :: 0xFF :: rest => (.bigFirst, rest)
  | _, octets => (.littleFirst, octets)

/-- The text of some octets. A mark is left out where it tells the order, and is a character
like any other where the order is fixed. -/
def decode? (charset : WideCharset) (octets : Octets) : Option Text :=
  match charset.order? with
  | some order => decodeOrdered? charset.width order octets
  | none =>
    let (order, rest) := marked charset.width octets
    decodeOrdered? charset.width order rest

/-- A character of the first plane outside the surrogates takes one unit of two octets. -/
theorem decodeOrdered?_pair (order : OctetOrder) (a b : UInt8) (rest : Octets)
    (first : isFirstHalf (unit order a b) = false)
    (second : isSecondHalf (unit order a b) = false) :
    decodeOrdered? .two order (a :: b :: rest) =
      (decodeOrdered? .two order rest).map (CodePoint.ofNat (unit order a b) :: ·) := by
  have here : read .two order a (b :: rest) = .text [CodePoint.ofNat (unit order a b)] 1 := by
    simp [read, readTwo, first, second]
  rw [decodeOrdered?, Charset.decodeEach?_of_text here]
  simp [decodeOrdered?]

end WideCharset

end Mailroom
