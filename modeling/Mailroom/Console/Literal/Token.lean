import Mailroom.Text.CharacterName

/-!
# The words of literals

A literal is written in numbers, texts between quotation marks, names and marks. Blanks stand
between them, line ends inside of brackets, and comments from a number sign to the line end.

* `Literal.Token`: a word of a literal;
* `Literal.number?`, `Literal.quoted?`: a number and a text at the beginning;
* `Literal.tokens?`: the words of a text, if it has no others.
-/

namespace Mailroom.Literal

/-- A word of a literal. -/
inductive Token where
  | number (isImaginary : Bool)
  | quoted (isOctets : Bool)
  /-- A truth value, or the mark of something left out. -/
  | constant
  /-- The name that makes an empty set. -/
  | setName
  | mark (c : Char)
deriving DecidableEq

/-- The code point can stand in a name, and so not right behind a number. -/
def isNamePart (c : CodePoint) : Bool :=
  c.isAsciiLetter || c.isAsciiDigit || c.val = 0x5F || 0x80 ≤ c.val

/-- Digits of some kind at the beginning, with a single low line between any two of them, and
the rest. A low line can come only behind a digit. -/
def digitsFrom (isDigit : CodePoint → Bool) (isBehindDigit : Bool) : Text → Text × Text
  | [] => ([], [])
  | c :: t =>
    if isDigit c then
      let (more, rest) := digitsFrom isDigit true t
      (c :: more, rest)
    else if isBehindDigit && c.val = 0x5F && t.head?.any isDigit then digitsFrom isDigit false t
    else ([], c :: t)

/-- Digits of some kind at the beginning, and the rest. -/
def digits (isDigit : CodePoint → Bool) (t : Text) : Text × Text := digitsFrom isDigit false t

/-- The text behind an exponent, if there is one. -/
def behindExponent? : Text → Option Text
  | e :: rest =>
    if e.val = 0x65 || e.val = 0x45 then
      let unsigned := match rest with
        | s :: r => if s.val = 0x2B || s.val = 0x2D then r else rest
        | [] => rest
      let (exponent, rest) := digits CodePoint.isAsciiDigit unsigned
      if exponent.isEmpty then none else some rest
    else none
  | [] => none

/-- The most digits that an integer has. -/
def integerDigits : Nat := 4300

/-- An integer in decimal digits does not begin with a zero, unless it has no other digits, and
it is not too long. -/
def isInteger (whole : Text) : Bool :=
  let isZero := whole.all (·.val = 0x30)
  !whole.isEmpty && (isZero || (whole.head?.any (·.val ≠ 0x30) && whole.length ≤ integerDigits))

/-- The digits of the base that a letter after a zero tells. -/
def ofBase? (c : CodePoint) : Option (CodePoint → Bool) :=
  match Char.ofNat c.val with
  | 'x' | 'X' => some fun d => d.hexValue?.isSome
  | 'o' | 'O' => some fun d => d.within 0x30 0x37
  | 'b' | 'B' => some fun d => d.within 0x30 0x31
  | _ => none

/-- A number in another base than ten at the beginning, and the rest. -/
def based? : Text → Option Text
  | zero :: letter :: t =>
    if zero.val = 0x30 then
      (ofBase? letter).bind fun isDigit =>
        let unmarked := match t with
          | u :: t' => if u.val = 0x5F then t' else t
          | [] => t
        let (number, rest) := digits isDigit unmarked
        if number.isEmpty then none else some rest
    else none
  | _ => none

/-- A number in decimal digits at the beginning, whether it is imaginary, and the rest. -/
def decimal? (t : Text) : Option (Bool × Text) :=
  let (whole, rest) := digits CodePoint.isAsciiDigit t
  let (fraction?, rest) : Option Text × Text := match rest with
    | point :: after =>
      if point.val = 0x2E then
        let (part, rest) := digits CodePoint.isAsciiDigit after
        (some part, rest)
      else (none, rest)
    | [] => (none, rest)
  if whole.isEmpty && (fraction?.getD []).isEmpty then none
  else
    let (isFloat, rest) := match behindExponent? rest with
      | some rest => (true, rest)
      | none => (fraction?.isSome, rest)
    match rest with
    | j :: after =>
      if j.val = 0x6A || j.val = 0x4A then some (true, after)
      else if isFloat || isInteger whole then some (false, rest)
      else none
    | [] => if isFloat || isInteger whole then some (false, []) else none

/-- A number at the beginning, whether it is imaginary, and the rest. No part of a name follows
right behind it. -/
def number? (t : Text) : Option (Bool × Text) :=
  let found := ((based? t).map fun rest => (false, rest)).or (decimal? t)
  found.bind fun (isImaginary, rest) =>
    if rest.head?.any isNamePart then none else some (isImaginary, rest)

/-- What stands before a closing quotation mark, single or threefold, and what follows it. A
backslash takes the meaning from the code point behind it, and only a threefold mark closes a
text of several lines. -/
def untilQuote? (quote : CodePoint) (isThreefold : Bool) : Text → Option (Text × Text)
  | [] => none
  | [c] => if !isThreefold && c = quote then some ([], []) else none
  | c :: d :: t =>
    if c.val = 0x5C then
      (untilQuote? quote isThreefold t).map fun (inner, rest) => (c :: d :: inner, rest)
    else if isThreefold then
      if c = quote && d = quote && t.head? = some quote then some ([], t.drop 1)
      else (untilQuote? quote isThreefold (d :: t)).map fun (inner, rest) => (c :: inner, rest)
    else if c = quote then some ([], d :: t)
    else if c.val = 0x0A then none
    else (untilQuote? quote isThreefold (d :: t)).map fun (inner, rest) => (c :: inner, rest)

/-- A number of hexadecimal digits at the beginning is a code point. -/
def startsWithPoint (count : Nat) (t : Text) : Bool :=
  let number := t.take count
  number.length = count && ((Text.hexNumber? number).bind CodePoint.ofNat?).isSome

/-- A name of a character in braces stands at the beginning. -/
def startsWithName (t : Text) : Bool :=
  match t with
  | c :: rest =>
    c.val = 0x7B && rest.any (·.val = 0x7D) &&
      (CodePoint.named? (rest.takeWhile (·.val ≠ 0x7D))).isSome
  | [] => false

/-- Every escape in a text means something. In octets only the one of two digits can fail. -/
def hasGoodEscapes (isOctets : Bool) : Text → Bool
  | [] => true
  | [_] => true
  | c :: d :: t =>
    if c.val = 0x5C then
      (match Char.ofNat d.val with
        | 'x' => startsWithPoint 2 t
        | 'u' => isOctets || startsWithPoint 4 t
        | 'U' => isOctets || startsWithPoint 8 t
        | 'N' => isOctets || startsWithName t
        | _ => true) && hasGoodEscapes isOctets t
    else hasGoodEscapes isOctets (d :: t)

/-- The kinds of text by the letters in front of the quotation mark: whether it is octets, and
whether backslashes stand for themselves. -/
def kindOf? (letters : Text) : Option (Bool × Bool) :=
  let small := letters.map fun c =>
    if c.isAsciiUpper then CodePoint.ofNat (c.val + 0x20) else c
  if small = "" || small = Text.ofString "u" then some (false, false)
  else if small = Text.ofString "r" then some (false, true)
  else if small = Text.ofString "b" then some (true, false)
  else if small = Text.ofString "br" || small = Text.ofString "rb" then some (true, true)
  else none

/-- The rest behind a text, of which `t` begins with the quotation mark. -/
def quoted? (isOctets isRaw : Bool) (t : Text) : Option Text :=
  match t with
  | [] => none
  | quote :: rest =>
    let isThreefold := (rest.take 2).all (· = quote) && rest.length ≥ 2
    (untilQuote? quote isThreefold (if isThreefold then rest.drop 2 else rest)).bind
      fun (inner, after) =>
        if (!isOctets || inner.isAscii) && (isRaw || hasGoodEscapes isOctets inner) then some after
        else none

/-- The code point is a quotation mark. -/
def isQuote (c : CodePoint) : Bool := c.val = 0x22 || c.val = 0x27

/-- A name, or a text with letters in front of it, at the beginning, and the rest. -/
def word? (t : Text) : Option (Token × Text) :=
  let letters := t.takeWhile isNamePart
  let rest := t.drop letters.length
  if rest.head?.any isQuote then
    (kindOf? letters).bind fun (isOctets, isRaw) =>
      (quoted? isOctets isRaw rest).map fun rest => (.quoted isOctets, rest)
  else if ["True", "False", "None"].any fun s => Text.ofString s = letters then
    some (.constant, rest)
  else if letters = Text.ofString "set" then some (.setName, rest)
  else none

/-- The marks of literals. -/
def marks : List Char := ['(', ')', '\x7b', '\x7d', ',', ':', '+', '-']

/-- A word at the beginning, and the rest. -/
def token? (t : Text) : Option (Token × Text) :=
  match t with
  | [] => none
  | c :: rest =>
    if marks.contains (Char.ofNat c.val) then some (.mark (Char.ofNat c.val), rest)
    else if (Text.ofString "...").isPrefixOf t then some (.constant, t.drop 3)
    else if c.isAsciiDigit || c.val = 0x2E then
      (number? t).map fun (isImaginary, rest) => (.number isImaginary, rest)
    else word? t

/-- Where the reading is: how many brackets are open, whether a word has come, whether blanks
stand before the first one on its line, and whether the line with the last word has ended. -/
structure Place where
  depth : Nat
  hasStarted : Bool
  isIndented : Bool
  hasEnded : Bool

/-- The most brackets that are open at a time. -/
def depthBound : Nat := 200

/-- The place behind a word, unless the word cannot stand there. -/
def Place.after? (place : Place) (token : Token) : Option Place :=
  if place.hasEnded || (!place.hasStarted && place.isIndented) then none
  else
    let place := { place with hasStarted := true }
    match token with
    | .mark '(' | .mark '\x7b' =>
      if place.depth < depthBound then some { place with depth := place.depth + 1 } else none
    | .mark ')' | .mark '\x7d' =>
      if place.depth = 0 then none else some { place with depth := place.depth - 1 }
    | _ => some place

/-- The place behind a line end. -/
def Place.afterLine (place : Place) : Place :=
  if place.depth ≠ 0 then place
  else if place.hasStarted then { place with hasEnded := true }
  else { place with isIndented := false }

/-- The words of a text from a place on. A backslash at the end of a line joins it with the
next one. -/
def tokensFrom? : Nat → Place → Text → Option (List Token)
  | 0, _, _ => none
  | _, _, [] => some []
  | fuel + 1, place, c :: t =>
    match c.val with
    | 0x20 | 0x09 => tokensFrom? fuel { place with isIndented := true } t
    | 0x0C => tokensFrom? fuel { place with isIndented := false } t
    | 0x0A => tokensFrom? fuel place.afterLine t
    | 0x23 => tokensFrom? fuel place (t.dropWhile (·.val ≠ 0x0A))
    | 0x5C =>
      match t with
      | d :: e :: t' =>
        if d.val = 0x0A && !place.hasEnded then tokensFrom? fuel place (e :: t') else none
      | _ => none
    | _ => do
      let (token, rest) ← token? (c :: t)
      let place ← place.after? token
      let others ← tokensFrom? fuel place rest
      return token :: others

/-- A text with every line end written as a line feed. -/
def withLineFeeds : Text → Text
  | [] => []
  | c :: t =>
    if c.val = 0x0D then
      match t with
      | d :: t' =>
        if d.val = 0x0A then d :: withLineFeeds t'
        else CodePoint.ofNat 0x0A :: withLineFeeds (d :: t')
      | [] => [CodePoint.ofNat 0x0A]
    else c :: withLineFeeds t

/-- The words of a text, if it has no others. -/
def tokens? (t : Text) : Option (List Token) :=
  if t.any fun c => c.val = 0 || c.isSurrogate then none
  else tokensFrom? (t.length + 1) ⟨0, false, false, false⟩ (withLineFeeds t)

end Mailroom.Literal
