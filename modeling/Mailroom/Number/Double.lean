/-!
# Numbers of double precision

A finite number has at most 53 significant binary digits and a bounded exponent. Every result
is the nearest such number to the exact one; of two that are equally near it is the one with
an even significand.

* `Double`: the numbers, with both infinities and the outcome of undefined operations;
* `Double.ofRatio`: the number nearest to a quotient;
* `Double.ofDecimal`: the number nearest to a decimal;
* `Double.add`, `Double.scale`: sum, and product with a natural number.
-/

namespace Mailroom

/-- A quotient rounded to the nearest natural number, to the even one of two. -/
def roundQuotient (numerator denominator : Nat) : Nat :=
  let quotient := numerator / denominator
  let rest := 2 * (numerator % denominator)
  if denominator < rest ∨ (rest = denominator ∧ quotient % 2 = 1) then quotient + 1 else quotient

/-- A number of double precision. A finite one is the significand times a power of two. -/
inductive Double where
  | finite (negative : Bool) (significand : Nat) (exponent : Int)
  | infinite (negative : Bool)
  | undefined
deriving DecidableEq

namespace Double

/-- The least exponent. -/
def leastExponent : Int := -1074

/-- The greatest exponent. -/
def greatestExponent : Int := 971

/-- Zero, with a sign. -/
def zero (negative : Bool) : Double := finite negative 0 leastExponent

/-- The quotient that a power of two goes into how many times, as a quotient. -/
def scaled (numerator denominator : Nat) (exponent : Int) : Nat × Nat :=
  match exponent with
  | .ofNat n => (numerator, denominator * Nat.pow 2 n)
  | .negSucc n => (numerator * Nat.pow 2 (n + 1), denominator)

/-- The exponent that leaves a positive quotient 53 digits before the point, or as many as
the least exponent allows. -/
def fittingExponent (numerator denominator : Nat) : Int :=
  let low := (numerator.log2 : Int) - denominator.log2 - 53
  let (n, d) := scaled numerator denominator low
  max leastExponent (if Nat.pow 2 53 * d ≤ n then low + 1 else low)

/-- The number with a significand of at most 2^53 and an exponent that fits it. -/
def pack (negative : Bool) (significand : Nat) (exponent : Int) : Double :=
  let (m, e) :=
    if significand = Nat.pow 2 53 then (Nat.pow 2 52, exponent + 1) else (significand, exponent)
  if greatestExponent < e then infinite negative else finite negative m e

/-- The number nearest to a quotient. -/
def ofRatio (negative : Bool) (numerator denominator : Nat) : Double :=
  if numerator = 0 then zero negative
  else
    let e := fittingExponent numerator denominator
    let (n, d) := scaled numerator denominator e
    pack negative (roundQuotient n d) e

/-- The number nearest to an integer. -/
def ofInt (n : Int) : Double := ofRatio (n < 0) n.natAbs 1

/-- The number nearest to a decimal with some digits before a power of ten. Beyond the
range of all numbers the power is not worked out. -/
def ofDecimal (negative : Bool) (digits : Nat) (exponent : Int) : Double :=
  let size : Int := (Nat.toDigits 10 digits).length + exponent
  if digits = 0 then zero negative
  else if 400 < size then infinite negative
  else if size < -400 then zero negative
  else match exponent with
    | .ofNat n => ofRatio negative (digits * Nat.pow 10 n) 1
    | .negSucc n => ofRatio negative digits (Nat.pow 10 (n + 1))

/-- The number with the other sign. -/
def neg : Double → Double
  | finite negative m e => finite (!negative) m e
  | infinite negative => infinite (!negative)
  | undefined => undefined

/-- The number in units of a power of two that is no greater than its own. -/
def inUnits (negative : Bool) (m : Nat) (e unit : Int) : Int :=
  let n : Int := (m * Nat.pow 2 (e - unit).toNat : Nat)
  if negative then -n else n

/-- An integer number of units, each a power of two. -/
def ofUnits (negativeZero : Bool) (n unit : Int) : Double :=
  if n = 0 then zero negativeZero
  else match unit with
    | .ofNat k => ofRatio (n < 0) (n.natAbs * Nat.pow 2 k) 1
    | .negSucc k => ofRatio (n < 0) n.natAbs (Nat.pow 2 (k + 1))

/-- The sum of two numbers. -/
def add : Double → Double → Double
  | finite s m e, finite s' m' e' =>
    let unit := min e e'
    ofUnits (s && s') (inUnits s m e unit + inUnits s' m' e' unit) unit
  | infinite s, infinite s' => if s = s' then infinite s else undefined
  | infinite s, finite .. => infinite s
  | finite .., infinite s => infinite s
  | undefined, _ => undefined
  | _, undefined => undefined

/-- The product of two numbers. -/
def mul : Double → Double → Double
  | finite s m e, finite s' m' e' => ofUnits (s != s') (inUnits (s != s') (m * m') 0 0) (e + e')
  | infinite s, infinite s' => infinite (s != s')
  | infinite s, finite s' m _ => if m = 0 then undefined else infinite (s != s')
  | finite s m _, infinite s' => if m = 0 then undefined else infinite (s != s')
  | undefined, _ => undefined
  | _, undefined => undefined

/-- The number is zero. -/
def isZero : Double → Bool
  | finite _ m _ => m == 0
  | _ => false

/-- The number is equal to an integer. -/
def equalsInt (x : Double) (n : Int) : Bool :=
  match x with
  | finite s m (.ofNat e) => inUnits s (m * Nat.pow 2 e) 0 0 == n
  | finite s m (.negSucc e) => inUnits s m 0 0 == n * (Nat.pow 2 (e + 1) : Nat)
  | _ => false

/-- Two numbers are equal. Both zeros are, and what is undefined equals nothing. -/
def equals : Double → Double → Bool
  | finite s m e, finite s' m' e' => (m == 0 && m' == 0) || (s == s' && m == m' && e == e')
  | infinite s, infinite s' => s == s'
  | _, _ => false

theorem ofRatio_zero (negative : Bool) (denominator : Nat) :
    ofRatio negative 0 denominator = zero negative := by
  simp [ofRatio]

theorem neg_neg (x : Double) : x.neg.neg = x := by
  cases x <;> simp [neg]

end Double

end Mailroom
