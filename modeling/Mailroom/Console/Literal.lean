import Mailroom.Console.Literal.Token

/-!
# Literals in markup

The arguments of a handler are literals: numbers, texts, truth values, and tuples, sets and
mappings of them.

* `Literal.Shape`: what has to be known of a literal;
* `Literal.value?`: the shape of the literal at the beginning of some words;
* `Literal.isLiteral`: the text is one literal.
-/

namespace Mailroom.Literal

/-- What has to be known of a literal. -/
inductive Shape where
  /-- A number without a sign. -/
  | number (isImaginary : Bool)
  /-- A number with a sign. -/
  | signed (isImaginary : Bool)
  /-- Anything else that can be a key of a mapping. -/
  | key
  /-- A set or mapping, or a tuple with one of them inside. -/
  | collection
  /-- The name that makes an empty set, which is no literal alone. -/
  | setName
deriving DecidableEq

/-- The literal can be a key of a mapping, or a member of a set. -/
def Shape.isKey : Shape → Bool
  | number _ | signed _ | key => true
  | collection | setName => false

/-- The literal can be the first part of a complex number. -/
def Shape.isReal (shape : Shape) : Bool := shape = .number false || shape = .signed false

/-- The words behind those of a text in several parts. All parts are of one kind. -/
def behindParts? (isOctets : Bool) : List Token → Option (List Token)
  | .quoted other :: rest => if other = isOctets then behindParts? isOctets rest else none
  | rest => some rest

/-- A shape and the words behind the literal. -/
abbrev Found := Shape × List Token

mutual

/-- A literal without a sign, or one in brackets. -/
def atom? : Nat → List Token → Option Found
  | 0, _ => none
  | fuel + 1, tokens =>
    match tokens with
    | .number isImaginary :: rest => some (.number isImaginary, rest)
    | .quoted isOctets :: rest => (behindParts? isOctets rest).map fun rest => (.key, rest)
    | .constant :: rest => some (.key, rest)
    | .setName :: rest => some (.setName, rest)
    | .mark '(' :: .mark ')' :: rest => some (.key, rest)
    | .mark '(' :: rest => do
      let (shape, after) ← expression? fuel rest
      match after with
      | .mark ')' :: after => some (shape, after)
      | .mark ',' :: after =>
        if shape = .setName then none
        else
          let (areKeys, after) ← items? ')' fuel after
          some (if shape.isKey && areKeys then .key else .collection, after)
      | _ => none
    | .mark '\x7b' :: .mark '\x7d' :: rest => some (.collection, rest)
    | .mark '\x7b' :: rest => do
      let (shape, after) ← value? fuel rest
      if !shape.isKey then none
      else match after with
        | .mark ':' :: after => do
          let (_, after) ← value? fuel after
          let after ← entries? fuel after
          some (.collection, after)
        | .mark ',' :: after => do
          let (areKeys, after) ← items? '\x7d' fuel after
          if areKeys then some (.collection, after) else none
        | .mark '\x7d' :: after => some (.collection, after)
        | _ => none
    | _ => none

/-- A literal without a sign, or the call that makes an empty set. -/
def primary? : Nat → List Token → Option Found
  | 0, _ => none
  | fuel + 1, tokens => do
    let (shape, rest) ← atom? fuel tokens
    match shape, rest with
    | .setName, .mark '(' :: .mark ')' :: rest => some (.collection, rest)
    | _, _ => some (shape, rest)

/-- A literal, or the name that makes an empty set. A sign goes before a number only, and a
real number and an imaginary one make a complex number. -/
def expression? : Nat → List Token → Option Found
  | 0, _ => none
  | fuel + 1, tokens => do
    let (shape, rest) ← match tokens with
      | .mark '+' :: rest | .mark '-' :: rest => match primary? fuel rest with
        | some (.number isImaginary, rest) => some (.signed isImaginary, rest)
        | _ => none
      | _ => primary? fuel tokens
    match rest with
    | .mark '+' :: rest | .mark '-' :: rest =>
      match primary? fuel rest with
      | some (.number true, rest) => if shape.isReal then some (.key, rest) else none
      | _ => none
    | _ => some (shape, rest)

/-- The shape of the literal at the beginning of some words, and the words behind it. -/
def value? : Nat → List Token → Option Found
  | 0, _ => none
  | fuel + 1, tokens => do
    let (shape, rest) ← expression? fuel tokens
    if shape = .setName then none else some (shape, rest)

/-- Whether all items of a tuple or set can be keys, and the words behind its closing mark. -/
def items? (closing : Char) : Nat → List Token → Option (Bool × List Token)
  | 0, _ => none
  | fuel + 1, tokens =>
    if tokens.head? = some (.mark closing) then some (true, tokens.drop 1)
    else do
      let (shape, rest) ← value? fuel tokens
      match rest with
      | .mark ',' :: rest => do
        let (areKeys, rest) ← items? closing fuel rest
        some (shape.isKey && areKeys, rest)
      | .mark c :: rest => if c = closing then some (shape.isKey, rest) else none
      | _ => none

/-- The words behind the closing mark of a mapping, given what follows its first entry. -/
def entries? : Nat → List Token → Option (List Token)
  | 0, _ => none
  | _ + 1, .mark '\x7d' :: rest => some rest
  | _ + 1, .mark ',' :: .mark '\x7d' :: rest => some rest
  | fuel + 1, .mark ',' :: rest => do
    let (shape, rest) ← value? fuel rest
    match shape.isKey, rest with
    | true, .mark ':' :: rest => do
      let (_, rest) ← value? fuel rest
      entries? fuel rest
    | _, _ => none
  | _, _ => none

end

/-- The text is one literal, or a tuple of literals without brackets. Blanks may stand in front
of it. -/
def isLiteral (t : Text) : Bool :=
  match tokens? (t.dropWhile fun c => c.val = 0x20 || c.val = 0x09) with
  | none => false
  | some [] => false
  | some tokens =>
    match items? ')' (6 * tokens.length + 8) (tokens ++ [.mark ')']) with
    | some (_, rest) => rest.isEmpty
    | none => false

end Mailroom.Literal
