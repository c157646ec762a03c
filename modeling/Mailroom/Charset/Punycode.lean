import Mailroom.Text.CodePoint

/-!
# Punycode

A text is written as its ASCII characters, a hyphen, and letters and digits that are numbers
to the base 36. Each number says how far to go on in the order of code points, and of places
for each code point, before the next character is inserted.

* `Punycode.readNumber?`: the number at the beginning of some digits;
* `Punycode.insertAll?`: the text after all insertions;
* `Punycode.decode?`: the text of some octets.
-/

namespace Mailroom.Punycode

/-- The least digit in a place that is followed by another digit. -/
def threshold (place bias : Nat) : Nat := min 26 (max 1 (36 * (place + 1) - bias))

/-- The bias that suits numbers of a given size: how often the size can be divided by 35
before it is small, and the rest on a scale. -/
def biasFor (size : Nat) : Nat :=
  if 455 < size then 36 + biasFor (size / 35) else 36 * size / (size + 38)
termination_by size

/-- The bias after a number has been read, the text having a given length then. -/
def adapt (number : Nat) (isFirst : Bool) (length : Nat) : Nat :=
  let scaled := if isFirst then number / 700 else number / 2
  biasFor (scaled + scaled / length)

/-- The number at the beginning of some digits, with those after it: the digits count from
the least on, and one below the threshold of its place is the last. -/
def readNumber? (bias : Nat) : (place weight : Nat) → List Nat → Option (Nat × List Nat)
  | _, _, [] => none
  | place, weight, digit :: digits =>
    let least := threshold place bias
    if digit < least then some (digit * weight, digits)
    else
      (readNumber? bias (place + 1) (weight * (36 - least)) digits).map fun (number, rest) =>
        (digit * weight + number, rest)

/-- Where the insertions have come to. -/
structure Progress where
  text : Text
  /-- The code point inserted last. -/
  point : Nat
  /-- The place behind it. -/
  place : Nat
  bias : Nat
  isFirst : Bool

/-- One insertion, by a number. -/
def Progress.insert? (p : Progress) (number : Nat) : Option Progress :=
  let room := p.text.length + 1
  let point := p.point + (p.place + number) / room
  let place := (p.place + number) % room
  (CodePoint.ofNat? point).map fun c =>
    { text := p.text.take place ++ c :: p.text.drop place
      point := point
      place := place + 1
      bias := adapt number p.isFirst room
      isFirst := false }

theorem length_lt_of_readNumber? {bias place weight number : Nat} {digits rest : List Nat}
    (h : readNumber? bias place weight digits = some (number, rest)) :
    rest.length < digits.length := by
  induction digits generalizing place weight number rest with
  | nil => simp [readNumber?] at h
  | cons digit digits ih =>
    rw [readNumber?] at h
    split at h
    · simp only [Option.some.injEq, Prod.mk.injEq] at h
      simp [← h.2]
    · obtain ⟨⟨n, r⟩, hn, hr⟩ := Option.map_eq_some_iff.1 h
      simp only [Prod.mk.injEq] at hr
      have := ih hn
      simp only [← hr.2, List.length_cons]
      omega

/-- All insertions that some digits say. -/
def insertAll? (p : Progress) (digits : List Nat) : Option Text :=
  if digits.isEmpty then some p.text
  else
    match h : readNumber? p.bias 0 1 digits with
    | some (number, rest) =>
      have := length_lt_of_readNumber? h
      (p.insert? number).bind fun next => insertAll? next rest
    | none => none
termination_by digits.length

/-- The value of a letter or digit. -/
def digit? (b : UInt8) : Option Nat :=
  let c := CodePoint.ofNat b.toNat
  if c.isAsciiLower then some (c.val - 0x61)
  else if c.isAsciiUpper then some (c.val - 0x41)
  else if c.isAsciiDigit then some (c.val - 0x30 + 26)
  else none

/-- The octets before the last hyphen, if there is one, and those after it. -/
def cut (octets : Octets) : Octets × Octets :=
  let tail := (octets.reverse.takeWhile (·.toNat ≠ 0x2D)).reverse
  (octets.take (octets.length - tail.length - 1), tail)

/-- The text of some octets. -/
def decode? (octets : Octets) : Option Text := do
  let (base, tail) := cut octets
  if base.all (·.toNat < 0x80) then
    let digits ← tail.mapM digit?
    insertAll? ⟨base.map fun b => CodePoint.ofNat b.toNat, 0x80, 0, 72, true⟩ digits
  else none

end Mailroom.Punycode
