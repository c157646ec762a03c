import Mailroom.Text.Split
import Mailroom.Yaml.Timestamp

/-!
# Kinds of nodes

* `Yaml.Kind`: what a node can stand for;
* `Kind.ofName`: the kind of a full name;
* `Kind.ofPlain`: the kind of a scalar of which nothing but its text is known.
-/

namespace Mailroom.Yaml

/-- What a node can stand for. -/
inductive Kind where
  | null
  | bool
  | int
  | real
  | octets
  | time
  | text
  | list
  | mapping
  /-- A list of pairs that is thought of as a mapping. -/
  | orderedMapping
  | pairs
  | set
  /-- The key under which entries of other mappings are taken over. -/
  | merge
  /-- The key of the value that a mapping stands for. -/
  | defaultValue
  | unknown
deriving DecidableEq

namespace Kind

/-- What the full names of the kinds begin with. -/
def namespaceName : Text := "tag:yaml.org,2002:"

/-- The kinds by the last parts of their names. -/
def names : List (String × Kind) :=
  [("null", null), ("bool", bool), ("int", int), ("float", real), ("binary", octets),
    ("timestamp", time), ("str", text), ("seq", list), ("map", mapping),
    ("omap", orderedMapping), ("pairs", pairs), ("set", set), ("merge", merge),
    ("value", defaultValue)]

/-- The kind of a full name. -/
def ofName (name : Text) : Kind :=
  match names.find? fun (part, _) => namespaceName ++ Text.ofString part = name with
  | some (_, kind) => kind
  | none => unknown

/-- The text is one of some words. -/
def isOneOf (words : List String) (t : Text) : Bool :=
  words.any fun word => decide (Text.ofString word = t)

/-- The words for truth values. -/
def isBool (t : Text) : Bool :=
  isOneOf ["yes", "Yes", "YES", "no", "No", "NO", "true", "True", "TRUE", "false", "False",
    "FALSE", "on", "On", "ON", "off", "Off", "OFF"] t

/-- The words for a missing value. -/
def isNull (t : Text) : Bool := isOneOf ["~", "null", "Null", "NULL"] t

/-- A text without its sign. -/
def withoutSign : Text → Text
  | c :: t => if c.val == 0x2B || c.val == 0x2D then t else c :: t
  | [] => []

/-- A digit or a low line. -/
def isDigitOrLine (c : CodePoint) : Bool := c.isAsciiDigit || c.val == 0x5F

/-- A digit, then digits and low lines. -/
def isGrouped : Text → Bool
  | c :: t => c.isAsciiDigit && t.all isDigitOrLine
  | [] => false

/-- One digit, or two of which the first is at most five. -/
def isSixtieth : Text → Bool
  | [c] => c.isAsciiDigit
  | [c, d] => c.within 0x30 0x35 && d.isAsciiDigit
  | _ => false

/-- A number in base sixty: several parts with colons between them. -/
def isSixtieths (t : Text) : Bool :=
  match Text.splitOn ':' t with
  | first :: second :: more => isGrouped first && (second :: more).all isSixtieth
  | _ => false

/-- The first code point is a digit other than zero. -/
def beginsPositive (t : Text) : Bool := t.head?.any fun c => c.within 0x31 0x39

/-- Digits of some base, at least one, perhaps with low lines. -/
def isInBase (isDigit : CodePoint → Bool) (t : Text) : Bool :=
  !t.isEmpty && t.all fun c => isDigit c || c.val == 0x5F

/-- An integer: in base two, eight, ten, sixteen or sixty. -/
def isInt (t : Text) : Bool :=
  match withoutSign t with
  | [] => false
  | c :: rest =>
    if c.val == 0x30 then
      rest.isEmpty || isInBase (·.within 0x30 0x37) rest
        || (rest.head?.any (·.val == 0x62) && isInBase (·.within 0x30 0x31) rest.tail)
        || (rest.head?.any (·.val == 0x78) && isInBase (fun d => d.hexValue?.isSome) rest.tail)
    else
      beginsPositive (c :: rest) && (isGrouped (c :: rest) || isSixtieths (c :: rest))

/-- Nothing, or the letter of an exponent, a sign and digits. -/
def isExponent : Text → Bool
  | [] => true
  | [_] => false
  | e :: sign :: digits =>
    (e.val == 0x65 || e.val == 0x45) && (sign.val == 0x2B || sign.val == 0x2D)
      && !digits.isEmpty && digits.all CodePoint.isAsciiDigit

/-- Digits and low lines, then perhaps an exponent. -/
def isFraction (t : Text) : Bool := isExponent (t.dropWhile isDigitOrLine)

/-- A number with a point: in base ten or sixty, infinite or undefined. -/
def isReal (t : Text) : Bool :=
  if isOneOf [".nan", ".NaN", ".NAN"] t then true
  else if isOneOf [".inf", ".Inf", ".INF"] (withoutSign t) then true
  else match Text.cut? '.' t with
    | none => false
    | some ([], fraction) =>
      fraction.head?.any CodePoint.isAsciiDigit && isFraction fraction
    | some (whole, fraction) =>
      let whole := withoutSign whole
      (isGrouped whole && isFraction fraction)
        || (isSixtieths whole && fraction.all isDigitOrLine)

/-- The kind of a scalar of which nothing but its text is known. A line feed at its end does
not count. -/
def ofPlain (t : Text) : Kind :=
  let word := Timestamp.withoutFinalBreak t
  if t.isEmpty then null
  else if isBool word then bool
  else if isReal word then real
  else if isInt word then int
  else if word = Text.ofString "<<" then merge
  else if isNull word then null
  else if Timestamp.isPlain t then time
  else if word = Text.ofString "=" then defaultValue
  else text

end Kind

end Mailroom.Yaml
