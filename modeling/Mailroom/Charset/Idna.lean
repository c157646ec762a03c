import Mailroom.Charset.IdnaTable
import Mailroom.Charset.Punycode
import Mailroom.Text.Composition
import Mailroom.Text.Split

/-!
# Internationalized domain names

A label of a domain name that begins with `xn--` is the Punycode of a label in any script,
provided that it is the one way to write that label.

* `Idna.isPrepared`: the label stays as it is when it is prepared for comparison;
* `Idna.label?`: the text of a label;
* `Idna.decode?`: the text of a domain name.
-/

namespace Mailroom.Idna

/-- The code point stands for itself in a prepared label. -/
def standsForItself (c : CodePoint) : Bool :=
  if c.isAscii then !c.isAsciiUpper else !inRuns unpreparedRuns c.val

/-- The letters run in one direction: with letters that run from right to left there are
none that run from left to right, and the first and the last code point are such letters. -/
def runsOneWay (label : Text) : Bool :=
  let toLeft (c : CodePoint) : Bool := inRuns rightToLeftRuns c.val
  let toRight (c : CodePoint) : Bool :=
    c.isAsciiLower || c.isAsciiUpper || inRuns leftToRightRuns c.val
  !label.any toLeft ||
    (!label.any toRight && (label.head?.any toLeft) && (label.getLast?.any toLeft))

/-- The label stays as it is when it is prepared for comparison: every code point stands for
itself, the text is composed, and its letters run in one direction. -/
def isPrepared (label : Text) : Bool :=
  label.all standsForItself && label.composed = label && runsOneWay label

/-- ASCII letters in lower case. -/
def small (label : Text) : Text :=
  label.map fun c => if c.isAsciiUpper then CodePoint.ofNat (c.val + 0x20) else c

/-- The octets at the beginning of a label in Punycode. -/
def mark : Octets := [0x78, 0x6E, 0x2D, 0x2D]

/-- The text of a label in Punycode without the mark: it must not be ASCII, and must be the
label that preparation and Punycode give back, apart from the case of ASCII letters. -/
def marked? (octets : Octets) : Option Text := do
  let label ← Punycode.decode? octets
  let isBare := octets.head? = some 0x2D && !(octets.drop 1).contains 0x2D
  if 60 ≤ octets.length || isBare || label.isAscii then none
  else
    let prepared := small label
    if (Text.ofString "xn--").isPrefixOf prepared || !isPrepared prepared then none
    else some label

/-- The text of a label. -/
def label? (octets : Octets) : Option Text :=
  if mark.isPrefixOf octets then marked? (octets.drop mark.length)
  else if octets.all (·.toNat < 0x80) then some (octets.map fun b => CodePoint.ofNat b.toNat)
  else none

/-- The labels between dots. -/
def labels : Octets → List Octets
  | [] => [[]]
  | b :: rest =>
    if b.toNat = 0x2E then [] :: labels rest
    else match labels rest with
      | label :: others => (b :: label) :: others
      | [] => [[b]]

/-- The text of a domain name. -/
def decode? (octets : Octets) : Option Text :=
  ((labels octets).mapM label?).map (Text.join [CodePoint.ofChar '.'])

end Mailroom.Idna
