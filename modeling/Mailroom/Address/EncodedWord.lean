import Mailroom.Address.Defect
import Mailroom.Address.Lexeme
import Mailroom.Base64
import Mailroom.Charset
import Mailroom.Text.Lower
import Mailroom.Text.Split

/-!
# Encoded words

`=?charset?encoding?letters?=` stands for a text in letters that pass through any mail
system.

* `EncodedWord.read?`: the encoded word at the beginning of a text, with what follows;
* `EncodedWord.decode?`: the text of the part between the outer marks;
* `EncodedWord.value`: the text with each run of blanks as one space;
* `EncodedWord.encode`: the shorter of the two encoded forms of a text.
-/

namespace Mailroom

namespace Text

/-- What stands before and after the first occurrence of two code points in a row. -/
def cutPair? (a b : CodePoint) : Text → Option (Text × Text)
  | [] => none
  | c :: t =>
    if c = a && t.head? = some b then some ([], t.drop 1)
    else (cutPair? a b t).map fun (before, after) => (c :: before, after)

/-- Each run of blanks that begins with a space or a tab as one space. -/
def squeezeAfter (inBlank : Bool) : Text → Text
  | [] => []
  | c :: t =>
    if inBlank && c.isBlank then squeezeAfter true t
    else if Lexeme.isSpace c then CodePoint.ofChar ' ' :: squeezeAfter true t
    else c :: squeezeAfter false t

/-- Each run of blanks that begins with a space or a tab as one space. -/
def squeeze (t : Text) : Text := squeezeAfter false t

/-- A blank stands between two code points that are none. -/
def hasInnerBlank (t : Text) : Bool := t.trim.any CodePoint.isBlank

end Text

/-- A decoded word and the defects of the way it was written. -/
structure EncodedWord where
  text : Text
  defects : List Address.Defect
deriving DecidableEq

namespace EncodedWord

/-- The text with each run of blanks as one space. -/
def value (w : EncodedWord) : Text := w.text.squeeze

/-- The octets of code points that are ASCII or held octets. -/
def octets? (t : Text) : Option Octets :=
  t.mapM fun c => if c.isAscii then some (UInt8.ofNat c.val) else c.octet?

/-- The octets of letters in which a low line is a space and an equals sign with two
hexadecimal digits is the octet of that number. -/
def decodeQuoted : Octets → Octets
  | [] => []
  | b :: rest =>
    let plain (b : UInt8) : UInt8 := if b.toNat == 0x5F then 0x20 else b
    let digit? (b : UInt8) : Option Nat := (CodePoint.ofNat b.toNat).hexValue?
    if b.toNat = 0x3D then
      match rest with
      | x :: y :: rest' => match digit? x, digit? y with
        | some high, some low => UInt8.ofNat (high * 16 + low) :: decodeQuoted rest'
        | _, _ => b :: decodeQuoted (x :: y :: rest')
      | short => b :: decodeQuoted short
    else plain b :: decodeQuoted rest

/-- The text of what stands between the outer marks: a character set, perhaps with a
language after an asterisk, an encoding and letters. -/
def decode? (inner : Text) : Option Text :=
  match Text.splitOn '?' inner with
  | [label, encoding, letters] => do
    let name := label.takeWhile fun c => c.val != 0x2A
    let coded ← octets? letters
    let octets ←
      if Text.lower encoding = Text.ofString "q" then some (decodeQuoted coded)
      else if Text.lower encoding = Text.ofString "b" then some (Base64.decodeTolerant coded)
      else none
    if name.any fun c => c.val == 0 then none
    else if name.any CodePoint.isSurrogate then some (Charset.decodeAscii octets)
    else match Charset.ofName? name with
      | some charset => charset.decode? octets
      | none => some (Charset.decodeAscii octets)
  | _ => none

/-- The part between the outer marks, with what follows them. Closing marks right before
two hexadecimal digits belong to the letters while their question mark is still to come. -/
def extent? (t : Text) : Option (Text × Text) :=
  match Text.cutPair? '?' '=' t with
  | none => none
  | some (inner, rest) =>
    let questions := inner.countP fun c => c.val == 0x3F
    match rest with
    | x :: y :: _ =>
      if x.hexValue?.isSome && y.hexValue?.isSome && questions < 2 then
        let (more, rest') := (Text.cutPair? '?' '=' rest).getD (rest, [])
        some (inner ++ "?=" ++ more, rest')
      else some (inner, rest)
    | _ => some (inner, rest)

/-- The encoded word at the beginning of a text, with what follows it. -/
def read? (t : Text) : Option (EncodedWord × Text) :=
  match t with
  | a :: b :: t' =>
    if a.val == 0x3D && b.val == 0x3F then do
      let (inner, rest) ← extent? t'
      let text ← decode? inner
      let inside : List Address.Defect :=
        if inner.hasInnerBlank then [.blankInEncodedWord] else []
      let after : List Address.Defect :=
        if Lexeme.headIs (fun c => !Lexeme.isSpace c) rest then [.textAfterEncodedWord] else []
      some (⟨text, inside ++ after⟩, rest)
    else none
  | _ => none

/-- The letters that stand for an octet in the quoted form. -/
def quotedLetters (b : UInt8) : Text :=
  let c := CodePoint.ofNat b.toNat
  if b.toNat == 0x20 then "_"
  else if c.isAsciiLetter || c.isAsciiDigit || ("-!*+/" : Text).contains c then [c]
  else "=" ++ (Nat.toDigits 16 (b.toNat / 16) ++ Nat.toDigits 16 (b.toNat % 16)).map
    fun d => (CodePoint.ofChar d).toAsciiUpper

/-- The encoded form of octets of UTF-8: letters of the quoted form, unless base64 is shorter. -/
def encode (octets : Octets) : Text :=
  let quoted := octets.flatMap quotedLetters
  if Base64.encodedLength octets.length < quoted.length then
    "=?utf-8?b?" ++ Base64.encode octets ++ "?="
  else "=?utf-8?q?" ++ quoted ++ "?="

end EncodedWord

end Mailroom
