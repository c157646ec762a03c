import Mailroom.Address.Lexeme

/-!
# Bare addresses for the envelope

The envelope carries addresses without names. They are taken from a text by an older and
more lenient reading than that of header fields.

* `Envelope.stripQuoted`: a text without its quoted parts;
* `Envelope.isBalanced`: parentheses outside of quoted parts come in pairs;
* `Envelope.readAll`: the addresses of a text, an empty one for what is no address;
* `Envelope.bare`: the one address of a text, or nothing.
-/

namespace Mailroom.Envelope

/-- A carriage return or line feed. -/
def isLineBreak (c : CodePoint) : Bool := c.val == 0x0D || c.val == 0x0A

/-- The code point is a mark of its own. A backslash is none. -/
def isMark (c : CodePoint) : Bool := Lexeme.isSpecial c && c.val != 0x5C

/-- The code point ends an atom. -/
def endsAtom (c : CodePoint) : Bool := isMark c || Lexeme.isSpace c || isLineBreak c

/-- The code point ends a word of a name, which may hold dots. -/
def endsWord (c : CodePoint) : Bool := endsAtom c && c.val != 0x2E

/-- A text without what stands between quotation marks that no backslash precedes. What
follows a mark without a partner stays; it is collected, in reverse, until one is found. -/
def stripFrom (open? : Option Text) (escaped : Bool) : Text → Text
  | [] => ((open?.map List.reverse).getD [])
  | c :: t =>
    let keep (escaped : Bool) : Text := match open? with
      | none => c :: stripFrom none escaped t
      | some held => stripFrom (some (c :: held)) escaped t
    if escaped then keep false
    else if c.val == 0x5C then keep true
    else if c.val == 0x22 then
      match open? with
      | none => stripFrom (some [c]) false t
      | some _ => stripFrom none false t
    else keep false

/-- A text without its quoted parts. -/
def stripQuoted (t : Text) : Text := stripFrom none false t

/-- Parentheses come in pairs, given how many are open. -/
def balancedFrom (depth : Nat) (escaped : Bool) : Text → Bool
  | [] => depth == 0
  | c :: t =>
    if escaped then balancedFrom depth false t
    else if c.val == 0x5C then balancedFrom depth true t
    else if c.val == 0x28 then balancedFrom (depth + 1) false t
    else if c.val == 0x29 then
      match depth with
      | 0 => false
      | d + 1 => balancedFrom d false t
    else balancedFrom depth false t

/-- Parentheses outside of quoted parts come in pairs. -/
def isBalanced (t : Text) : Bool := balancedFrom 0 false (stripQuoted t)

/-- The spaces and tabs among the blanks and comments at the beginning of a text, with what
follows those. A carriage return closes a comment as a parenthesis does. -/
def skip (depth : Nat) (escaped : Bool) : Text → Text × Text
  | [] => ([], [])
  | c :: t =>
    match depth with
    | 0 =>
      if Lexeme.isSpace c then
        let (blank, rest) := skip 0 false t
        (c :: blank, rest)
      else if isLineBreak c then skip 0 false t
      else if c.val == 0x28 then skip 1 false t
      else ([], c :: t)
    | d + 1 =>
      if escaped then skip (d + 1) false t
      else if c.val == 0x29 || c.val == 0x0D then skip d false t
      else if c.val == 0x28 then skip (d + 2) false t
      else if c.val == 0x5C then skip (d + 1) true t
      else skip (d + 1) false t

/-- What follows the blanks and comments at the beginning of a text. -/
def afterBlank (t : Text) : Text := (skip 0 false t).2

/-- The content up to a closing mark or carriage return, with what follows it. -/
def delimited (close : CodePoint) (escaped : Bool) : Text → Text × Text
  | [] => ([], [])
  | c :: t =>
    if escaped then
      let (content, rest) := delimited close false t
      (c :: content, rest)
    else if c = close || c.val == 0x0D then ([], t)
    else if c.val == 0x5C then delimited close true t
    else
      let (content, rest) := delimited close false t
      (c :: content, rest)

/-- The words of a name, at most as many as the fuel allows, with what follows them. -/
def readWords : Nat → Text → List Text × Text
  | 0, t => ([], t)
  | fuel + 1, t => match afterBlank t with
    | [] => ([], [])
    | c :: rest =>
      if c.val == 0x22 then
        let (word, rest) := delimited c false rest
        let (words, rest) := readWords fuel rest
        (word :: words, rest)
      else if endsWord c then ([], c :: rest)
      else
        let word := (c :: rest).takeWhile fun d => !endsWord d
        let (words, rest) := readWords fuel ((c :: rest).dropWhile fun d => !endsWord d)
        (word :: words, rest)

/-- What follows a comment of which some parentheses are open. -/
def afterComment (depth : Nat) (escaped : Bool) : Text → Text
  | [] => []
  | c :: t =>
    match depth with
    | 0 => c :: t
    | d + 1 =>
      if escaped then afterComment (d + 1) false t
      else if c.val == 0x29 || c.val == 0x0D then afterComment d false t
      else if c.val == 0x28 then afterComment (d + 2) false t
      else if c.val == 0x5C then afterComment (d + 1) true t
      else afterComment (d + 1) false t

/-- The domain at the beginning of a text after what has been read of it, with what follows.
A second `@` leaves none of it. -/
def readDomain : Nat → Text → Text → Text × Text
  | 0, found, t => (found, t)
  | fuel + 1, found, t => match t with
    | [] => (found, [])
    | c :: rest =>
      if Lexeme.isSpace c then readDomain fuel found rest
      else if c.val == 0x28 then readDomain fuel found (afterComment 1 false rest)
      else if c.val == 0x5B then
        let (content, rest) := delimited ']' false rest
        readDomain fuel (found ++ "[" ++ content ++ "]") rest
      else if c.val == 0x2E then readDomain fuel (found ++ [c]) rest
      else if c.val == 0x40 then ([], t)
      else if endsAtom c then (found, t)
      else readDomain fuel (found ++ t.takeWhile fun d => !endsAtom d)
        (t.dropWhile fun d => !endsAtom d)

/-- The pieces read so far without a blank one at the end. -/
def dropBlankPiece (pieces : List Text) : List Text :=
  match pieces with
  | piece :: before => if piece.all CodePoint.isBlank then before else pieces
  | [] => []

/-- The pieces of a local part, in reverse, with what follows them. -/
def readLocal : Nat → List Text → Text → List Text × Text
  | 0, pieces, t => (pieces, t)
  | fuel + 1, pieces, t => match t with
    | [] => (pieces, [])
    | c :: rest =>
      if c.val == 0x2E then readLocal fuel ([c] :: dropBlankPiece pieces) (afterBlank rest)
      else if c.val != 0x22 && endsAtom c then (dropBlankPiece pieces, t)
      else
        let (piece, rest) : Text × Text :=
          if c.val == 0x22 then
            let (content, rest) := delimited c false rest
            (content.inQuotes, rest)
          else (t.takeWhile fun d => !endsAtom d, t.dropWhile fun d => !endsAtom d)
        let (blank, rest) := skip 0 false rest
        readLocal fuel (if blank.isEmpty then piece :: pieces else blank :: piece :: pieces) rest

/-- The address at the beginning of a text, with what follows it. -/
def readSpec (t : Text) : Text × Text :=
  let t := afterBlank t
  let (pieces, rest) := readLocal t.length [] t
  let localPart := pieces.reverse.flatten
  match rest with
  | c :: rest' =>
    if c.val == 0x40 then
      let start := afterBlank rest'
      let (domain, rest) := readDomain start.length [] start
      (if domain.isEmpty then [] else localPart ++ [c] ++ domain, rest)
    else (localPart, rest)
  | [] => (localPart, [])

/-- The address in angle brackets whose opening bracket has been read, behind any route. -/
def readRoute : Nat → Bool → Text → Text × Text
  | 0, _, t => ([], t)
  | fuel + 1, routed, t => match t with
    | [] => ([], [])
    | c :: rest =>
      if routed then readRoute fuel false (afterBlank (readDomain t.length [] t).2)
      else if c.val == 0x3E then ([], rest)
      else if c.val == 0x40 then readRoute fuel true (afterBlank rest)
      else if c.val == 0x3A then readRoute fuel false (afterBlank rest)
      else
        let (spec, rest) := readSpec t
        (spec, rest.drop 1)

/-- The text after a comma, if one follows. -/
def afterComma (t : Text) : Text :=
  let t := afterBlank t
  if Lexeme.headIs (·.val == 0x2C) t then t.drop 1 else t

mutual

/-- The addresses of one entry, with what follows it. -/
def readEntry : Nat → Text → List Text × Text
  | 0, t => ([], t)
  | fuel + 1, t =>
    let start := afterBlank t
    let (words, rest) := readWords start.length start
    match afterBlank rest with
    | [] => ((words.head?).toList, [])
    | c :: rest =>
      if c.val == 0x2E || c.val == 0x40 then
        let (spec, rest) := readSpec start
        ([spec], afterComma rest)
      else if c.val == 0x3A then
        let (members, rest) := readMembers fuel rest
        (members, afterComma rest)
      else if c.val == 0x3C then
        let inner := afterBlank rest
        let (spec, rest) := readRoute (inner.length + 1) false inner
        ([spec], afterComma rest)
      else if words.isEmpty then ([], afterComma (if isMark c then rest else c :: rest))
      else ((words.head?).toList, afterComma (c :: rest))

/-- The addresses of a group up to its semicolon, with what follows it. -/
def readMembers : Nat → Text → List Text × Text
  | 0, t => ([], t)
  | fuel + 1, t =>
    if t.isEmpty then ([], [])
    else match afterBlank t with
      | c :: rest =>
        if c.val == 0x3B then ([], rest)
        else
          let (entry, rest) := readEntry fuel (c :: rest)
          let (more, rest) := readMembers fuel rest
          (entry ++ more, rest)
      | [] =>
        let (entry, rest) := readEntry fuel []
        let (more, rest) := readMembers fuel rest
        (entry ++ more, rest)

end

/-- The addresses of a text, an empty one for each entry that has none. -/
def readAll : Nat → Text → List Text
  | 0, _ => []
  | fuel + 1, t =>
    if t.isEmpty then []
    else
      let (entry, rest) := readEntry (2 * t.length + 2) t
      (if entry.isEmpty then [[]] else entry) ++ readAll fuel rest

/-- The one address of a text. Where parentheses are not in pairs, a literal in brackets
occurs, or there is not exactly one address, there is nothing. -/
def bare (t : Text) : Text :=
  if !isBalanced t then []
  else match readAll (t.length + 1) t with
    | [spec] => if spec.any fun c => c.val == 0x5B then [] else spec
    | _ => []

end Mailroom.Envelope
