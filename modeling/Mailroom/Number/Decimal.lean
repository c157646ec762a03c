import Mailroom.Number.Double
import Mailroom.Text.Integer
import Mailroom.Text.Lower

/-!
# Decimal notation of numbers of double precision

* `Double.shortest`: the fewest digits that read back as the number, and of those the nearest;
* `Double.shown`: the notation, positional unless the number is very large or small;
* `Double.parse?`: the number that a text stands for.
-/

namespace Mailroom.Double

/-- The least power of ten that makes a quotient at least one, within some fuel. -/
def leadingZeros : Nat → Nat → Nat → Nat
  | 0, _, _ => 0
  | fuel + 1, numerator, denominator =>
    if denominator ≤ numerator then 0 else leadingZeros fuel (numerator * 10) denominator + 1

/-- How many digits a positive quotient has before the point; negative for zeros after it. -/
def pointPosition (numerator denominator : Nat) : Int :=
  if denominator ≤ numerator then (Nat.toDigits 10 (numerator / denominator)).length
  else 1 - (leadingZeros 400 numerator denominator : Int)

/-- What reads back as a number: an interval between two quotients of one denominator, and
whether its ends belong to it. -/
structure Interval where
  low : Nat
  middle : Nat
  high : Nat
  denominator : Nat
  closed : Bool

/-- What reads back as a positive finite number. Below a power of two the numbers lie twice
as close as above it. -/
def interval (m : Nat) (e : Int) : Interval :=
  let low := if m = Nat.pow 2 52 ∧ e ≠ leastExponent then 4 * m - 1 else 4 * m - 2
  let closed := m % 2 = 0
  match e - 2 with
  | .ofNat k =>
    let f := Nat.pow 2 k
    ⟨low * f, 4 * m * f, (4 * m + 2) * f, 1, closed⟩
  | .negSucc k => ⟨low, 4 * m, 4 * m + 2, Nat.pow 2 (k + 1), closed⟩

/-- The interval with its quotients divided by a power of ten. -/
def Interval.inPowers (i : Interval) (power : Int) : Interval :=
  match power with
  | .ofNat n => { i with denominator := i.denominator * Nat.pow 10 n }
  | .negSucc n =>
    let f := Nat.pow 10 (n + 1)
    { i with low := i.low * f, middle := i.middle * f, high := i.high * f }

/-- A natural number lies in the interval. -/
def Interval.has (i : Interval) (n : Nat) : Bool :=
  let x := n * i.denominator
  if i.closed then i.low ≤ x && x ≤ i.high else i.low < x && x < i.high

/-- The natural number in the interval that is nearest to its middle. -/
def Interval.nearest? (i : Interval) : Option Nat :=
  let below := i.middle / i.denominator
  match i.has below, i.has (below + 1) with
  | true, true => some (roundQuotient i.middle i.denominator)
  | true, false => some below
  | false, true => some (below + 1)
  | false, false => none

/-- The digits of the first grid that has a point in the interval, with the place of the
point, starting from a number of digits. -/
def shortestFrom (i : Interval) (position : Int) : Nat → Nat → Nat × Int
  | 0, digits => ((i.inPowers (position - digits)).middle, position)
  | fuel + 1, digits =>
    match (i.inPowers (position - digits)).nearest? with
    | some n => (n, position - digits)
    | none => shortestFrom i position fuel (digits + 1)

/-- The fewest digits that read back as a positive finite number, with the power of ten
behind them. -/
def shortest (m : Nat) (e : Int) : Nat × Int :=
  let i := interval m e
  shortestFrom i (pointPosition i.middle i.denominator) 17 1

/-- The digits of a number without zeros at the end. -/
def significantDigits (n : Nat) : Text := Text.trimRightWhere (fun c => c.val == 0x30) (Text.ofNat n)

/-- As many zeros. -/
def zeros (n : Nat) : Text := List.replicate n (CodePoint.ofChar '0')

/-- The exponents of ten for which the notation is positional. -/
def isPositional (position : Int) : Bool := -4 < position && position ≤ 16

/-- The notation of digits that stand behind the point, moved by a power of ten. -/
def written (digits : Text) (position : Int) : Text :=
  if isPositional position then
    if position ≤ 0 then "0." ++ zeros (-position).toNat ++ digits
    else if digits.length ≤ position.toNat then
      digits ++ zeros (position.toNat - digits.length) ++ ".0"
    else digits.take position.toNat ++ "." ++ digits.drop position.toNat
  else
    let exponent := position - 1
    let size := Text.ofNat exponent.natAbs
    let sign : Text := if exponent < 0 then "-" else "+"
    let point : Text := if digits.length ≤ 1 then [] else "."
    digits.take 1 ++ point ++ digits.drop 1 ++ "e" ++ sign ++ zeros (2 - size.length) ++ size

/-- The notation of a number. -/
def shown : Double → Text
  | finite negative m e =>
    let sign : Text := if negative then "-" else []
    if m = 0 then sign ++ "0.0"
    else
      let (n, power) := shortest m e
      sign ++ written (significantDigits n) ((Text.ofNat n).length + power)
  | infinite negative => if negative then "-inf" else "inf"
  | undefined => "nan"

/-- The digits at the beginning of a text, as values, with what follows them. -/
def takeDigits : Text → List Nat × Text
  | [] => ([], [])
  | c :: t => match c.digitValue? with
    | some d => let (digits, rest) := takeDigits t; (d :: digits, rest)
    | none => ([], c :: t)

/-- The number that digits stand for. -/
def ofDigits (digits : List Nat) : Nat := digits.foldl (fun n d => n * 10 + d) 0

/-- A sign, if there is one, and what follows; whether the sign is a minus. -/
def takeSign : Text → Bool × Text
  | [] => (false, [])
  | c :: t => if c.val == 0x2D then (true, t) else if c.val == 0x2B then (false, t)
    else (false, c :: t)

/-- The exponent that a text is, if it is one or nothing. -/
def exponent? : Text → Option Int
  | [] => some 0
  | c :: t =>
    if c.val == 0x65 || c.val == 0x45 then
      let (negative, t) := takeSign t
      match takeDigits t with
      | (d :: digits, []) =>
        let n : Int := ofDigits (d :: digits)
        some (if negative then -n else n)
      | _ => none
    else none

/-- The number of an unsigned decimal. -/
def unsigned? (negative : Bool) (t : Text) : Option Double :=
  let (whole, rest) := takeDigits t
  let (fraction, rest) := match rest with
    | c :: t => if c.val == 0x2E then takeDigits t else ([], rest)
    | [] => ([], [])
  if whole.isEmpty && fraction.isEmpty then none
  else (exponent? rest).map fun e =>
    ofDecimal negative (ofDigits (whole ++ fraction)) (e - fraction.length)

/-- The number that a text stands for: a decimal or the name of an infinity, perhaps with a
sign, or the name of the undefined. -/
def parse? (t : Text) : Option Double :=
  let (negative, t) := takeSign (Text.trimWhere Text.isNumberBlank t)
  let name := Text.lower t
  if name = Text.ofString "inf" || name = Text.ofString "infinity" then some (infinite negative)
  else if name = Text.ofString "nan" then some undefined
  else unsigned? negative t

end Mailroom.Double
