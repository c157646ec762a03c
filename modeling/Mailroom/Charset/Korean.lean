import Mailroom.Charset.Grid.KsX1001
import Mailroom.Charset.Piece

/-!
# Korean character sets

A syllable of Hangul has an initial, a vowel and perhaps a final. KS X 1001 has 2350 of the
11172 syllables; there are three ways to write the other ones.

* `Hangul.syllable`: the code point of a syllable;
* `KoreanCharset`: EUC, where eight octets spell a syllable by its letters; its Windows form,
  which adds the missing syllables in their order; and Johab, where two octets have five bits
  for each letter;
* `KoreanCharset.decode?`: the text of some octets.
-/

namespace Mailroom

open Charset

namespace Hangul

/-- The consonants that open a syllable. -/
def initials : List Char := "ㄱㄲㄴㄷㄸㄹㅁㅂㅃㅅㅆㅇㅈㅉㅊㅋㅌㅍㅎ".toList

/-- The vowels. -/
def vowels : List Char := "ㅏㅐㅑㅒㅓㅔㅕㅖㅗㅘㅙㅚㅛㅜㅝㅞㅟㅠㅡㅢㅣ".toList

/-- The consonants that close a syllable. -/
def finals : List Char := "ㄱㄲㄳㄴㄵㄶㄷㄹㄺㄻㄼㄽㄾㄿㅀㅁㅂㅄㅅㅆㅇㅈㅊㅋㅌㅍㅎ".toList

/-- The syllable with a given initial, vowel and final, each by its place in the order of
letters. No final counts as nought, and the first one as one. -/
def syllable (initial vowel final : Nat) : CodePoint :=
  CodePoint.ofNat (0xAC00 + (initial * 21 + vowel) * 28 + final)

/-- The syllable of three letters, if they are such ones. A filler stands for no final. -/
def ofLetters? (initial vowel final : Char) : Option CodePoint := do
  let i ← initials.idxOf? initial
  let v ← vowels.idxOf? vowel
  let f ← if final = '\u3164' then some 0 else (finals.idxOf? final).map (· + 1)
  some (syllable i v f)

end Hangul

/-- A Korean character set. -/
inductive KoreanCharset where
  | euc
  | windows949
  | johab
deriving DecidableEq

namespace KoreanCharset

/-- The character of two octets in EUC. -/
def euc? (a b : Nat) : Option CodePoint := ksX1001.at? (a - 0x80) (b - 0x80)

/-- The letter of Hangul that an octet tells after the octet 0xA4. -/
def letter? (n : Nat) : Option Char :=
  if 0xA1 ≤ n && n ≤ 0xFE then some (Char.ofNat (0x3131 + (n - 0xA1))) else none

/-- What stands at the beginning in EUC. A filler among the letters, 0xA4D4, opens eight
octets with an initial, a vowel and a final, each after an octet 0xA4. -/
def readEuc (a : UInt8) (rest : Octets) : Piece :=
  if a.toNat = 0xA4 && rest.head? = some 0xD4 then
    match rest with
    | _ :: c :: initial :: d :: vowel :: e :: final :: _ =>
      if c.toNat = 0xA4 && d.toNat = 0xA4 && e.toNat = 0xA4 then
        .ofText? (do
          let initial ← letter? initial.toNat
          let vowel ← letter? vowel.toNat
          let final ← letter? final.toNat
          (Hangul.ofLetters? initial vowel final).map ([·])) 7
      else .bad 0
    | short => .bad short.length
  else readPair (fun a b => (euc? a b).map ([·])) a rest

/-- The place of the second octet in the rows of the Windows form. -/
def windows949Place? (b : Nat) : Option Nat :=
  if 0x41 ≤ b && b ≤ 0x5A then some (b - 0x41)
  else if 0x61 ≤ b && b ≤ 0x7A then some (b - 0x61 + 26)
  else if 0x81 ≤ b && b ≤ 0xFE then some (b - 0x81 + 52)
  else none

/-- The place of two octets among the 8822 syllables that the Windows form adds. The rows
from 0xA1 on are cut off where the cells of EUC begin. -/
def addedPlace? (a b : Nat) : Option Nat :=
  (windows949Place? b).bind fun place =>
    if 0x81 ≤ a && a ≤ 0xA0 then some ((a - 0x81) * 178 + place)
    else if 0xA1 ≤ a && place < 84 then
      let n := 32 * 178 + (a - 0xA1) * 84 + place
      if n < 8822 then some n else none
    else none

/-- The syllables of KS X 1001 in their order, by number. -/
def commonSyllables : List Nat :=
  (ksX1001.rows.filter fun (row, _) => 0x30 ≤ row && row ≤ 0x48).flatMap fun (_, cells) =>
    cells.toList.map Char.toNat

/-- The syllable that has a given place among those missing from KS X 1001. -/
def addedSyllable (place : Nat) : CodePoint :=
  CodePoint.ofNat (commonSyllables.foldl (fun n c => if c ≤ n then n + 1 else n) (0xAC00 + place))

/-- The character of two octets in the Windows form. -/
def windows949? (a b : Nat) : Option CodePoint :=
  (euc? a b).or ((addedPlace? a b).map addedSyllable)

/-- A letter of Johab: its place in the order of letters, or none for a filler. -/
abbrev JohabLetter := Option Nat

/-- The initial of five bits. -/
def johabInitial? (n : Nat) : Option JohabLetter :=
  if n = 1 then some none else if 2 ≤ n && n ≤ 20 then some (some (n - 2)) else none

/-- The vowel of five bits, of which the lower three are never 0 or 1. -/
def johabVowel? (n : Nat) : Option JohabLetter :=
  if n = 2 then some none
  else if 3 ≤ n && n ≤ 29 && 2 ≤ n % 8 then some (some (n / 8 * 6 + n % 8 - 3))
  else none

/-- The final of five bits. The number 18 is left out. -/
def johabFinal? (n : Nat) : Option JohabLetter :=
  if n = 1 then some none
  else if 2 ≤ n && n ≤ 17 then some (some (n - 2))
  else if 19 ≤ n && n ≤ 29 then some (some (n - 3))
  else none

/-- The code point of the letters of a syllable, of a single letter, or of three fillers. -/
def johabCharacter? : JohabLetter → JohabLetter → JohabLetter → Option CodePoint
  | some i, some v, f => some (Hangul.syllable i v ((f.map (· + 1)).getD 0))
  | some i, none, none => Hangul.initials[i]?.map CodePoint.ofChar
  | none, some v, none => Hangul.vowels[v]?.map CodePoint.ofChar
  | none, none, some f => Hangul.finals[f]?.map CodePoint.ofChar
  | none, none, none => some (CodePoint.ofNat 0x3000)
  | _, _, _ => none

/-- The place of the second octet in two rows of KS X 1001. -/
def johabPlace? (b : Nat) : Option Nat :=
  if 0x31 ≤ b && b ≤ 0x7E then some (b - 0x31)
  else if 0x91 ≤ b && b ≤ 0xFE then some (b - 0x43)
  else none

/-- The character of two octets in Johab: letters in five bits each, or from 0xD9 on a
character of KS X 1001 that is no part of Hangul. -/
def johab? (a b : Nat) : Option CodePoint :=
  if a < 0xD8 then do
    let i ← johabInitial? (a / 4 % 32)
    let v ← johabVowel? ((a * 8 + b / 32) % 32)
    let f ← johabFinal? (b % 32)
    johabCharacter? i v f
  else if a = 0xD8 || a = 0xDF || 0xF9 < a || (a = 0xDA && 0xA1 ≤ b && b ≤ 0xD3) then none
  else
    (johabPlace? b).bind fun place =>
      let row := if a < 0xE0 then 2 * (a - 0xD9) else 2 * a - 0x197
      ksX1001.at? (row + place / 94 + 0x21) (place % 94 + 0x21)

/-- What stands at the beginning of some octets. -/
def read : KoreanCharset → UInt8 → Octets → Piece
  | euc => readEuc
  | windows949 => readPair fun a b => (windows949? a b).map ([·])
  | johab => readPair fun a b => (johab? a b).map ([·])

/-- The text of some octets. -/
def decode? (charset : KoreanCharset) (octets : Octets) : Option Text :=
  decodeEach? charset.read octets

end KoreanCharset

end Mailroom
