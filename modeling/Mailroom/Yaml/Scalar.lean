import Mailroom.Base64
import Mailroom.Number.Decimal
import Mailroom.Text.Lower
import Mailroom.Value.Basic
import Mailroom.Yaml.Fault
import Mailroom.Yaml.Kind

/-!
# The values of scalars

* `Yaml.intOf`, `Yaml.realOf`, `Yaml.octetsOf`, `Yaml.timeOf`: the readers of single kinds;
* `Yaml.scalarOf`: the value of a text of some kind.
-/

namespace Mailroom.Yaml

/-- The words for truth values in small letters. -/
def truthOf? (word : Text) : Option Bool :=
  if Kind.isOneOf ["yes", "true", "on"] word then some true
  else if Kind.isOneOf ["no", "false", "off"] word then some false
  else none

/-- A text without its low lines. -/
def withoutLines (t : Text) : Text := t.filter fun c => c.val != 0x5F

/-- A text that stands for a number has to do so. -/
def numberOr {α : Type} : Option α → Except Fault α
  | some n => .ok n
  | none => .error (.breakdown .outOfRange)

/-- The value of parts in base sixty, the most significant first. -/
def sixtieths (parts : List Int) : Int := parts.foldl (fun n d => n * 60 + d) 0

/-- A minus comes first. -/
def isNegative (t : Text) : Bool := t.head?.any fun c => c.val == 0x2D

/-- The number without its sign, in base two, eight, ten, sixteen or sixty. -/
def magnitudeOf (t : Text) : Except Fault Int :=
  match t with
  | [] => .error (.breakdown .noDigits)
  | z :: rest =>
    if t = Text.ofString "0" then .ok 0
    else if z.val = 0x30 ∧ rest.head? = some (CodePoint.ofChar 'b') then
      numberOr (Text.toIntInBase? 2 rest.tail)
    else if z.val = 0x30 ∧ rest.head? = some (CodePoint.ofChar 'x') then
      numberOr (Text.toIntInBase? 16 rest.tail)
    else if z.val = 0x30 then numberOr (Text.toIntInBase? 8 t)
    else if t.contains (CodePoint.ofChar ':') then
      (numberOr ((Text.splitOn ':' t).mapM Text.toInt?)).map sixtieths
    else numberOr (Text.toInt? t)

/-- The integer of a text. -/
def intOf (t : Text) : Except Fault Int :=
  let t := withoutLines t
  match t with
  | [] => .error (.breakdown .noDigits)
  | _ => (magnitudeOf (Kind.withoutSign t)).map fun n => if isNegative t then -n else n

/-- The sum of parts in base sixty, the least significant first. -/
def sixtiethsFrom (sum : Double) (base : Nat) : List Double → Except Fault Double
  | [] => .ok sum
  | x :: xs =>
    match Double.ofInt base with
    | .finite s m e => sixtiethsFrom (sum.add (x.mul (.finite s m e))) (base * 60) xs
    | _ => .error (.breakdown .tooLarge)

/-- The number of a text that may have a point. -/
def realOf (t : Text) : Except Fault Double :=
  let t := Text.lower (withoutLines t)
  match t with
  | [] => .error (.breakdown .noDigits)
  | _ =>
    let size := Kind.withoutSign t
    let signed (x : Double) : Double := if isNegative t then x.neg else x
    if size = Text.ofString ".inf" then .ok (signed (.infinite false))
    else if size = Text.ofString ".nan" then .ok .undefined
    else if size.contains (CodePoint.ofChar ':') then do
      let parts ← numberOr ((Text.splitOn ':' size).mapM Double.parse?)
      return signed (← sixtiethsFrom (Double.zero false) 1 parts.reverse)
    else (numberOr (Double.parse? size)).map signed

/-- The octets of a text in base sixty-four. -/
def octetsOf (t : Text) : Except Fault Octets :=
  if t.isAscii then
    match Base64.decode? false (t.map fun c => UInt8.ofNat c.val) with
    | some octets => .ok octets
    | none => .error .malformed
  else .error .malformed

/-- The day or time of a text. -/
def timeOf (t : Text) : Except Fault Scalar :=
  match Timestamp.read? t with
  | none => .error (.breakdown .noTime)
  | some (.inl date) => if date.isValid then .ok (.date date) else .error (.breakdown .outOfRange)
  | some (.inr moment) =>
    if moment.isValid then .ok (.moment moment) else .error (.breakdown .outOfRange)

/-- The value of a text of some kind. -/
def scalarOf (kind : Kind) (t : Text) : Except Fault Scalar :=
  match kind with
  | .null => .ok .null
  | .bool => match truthOf? (Text.lower t) with
    | some b => .ok (.bool b)
    | none => .error (.breakdown .noTruthValue)
  | .int => (intOf t).map .int
  | .real => (realOf t).map .real
  | .octets => (octetsOf t).map .octets
  | .time => timeOf t
  | .text => .ok (.text t)
  | _ => .error .malformed

end Mailroom.Yaml
