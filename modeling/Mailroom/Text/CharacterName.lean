import Mailroom.Text.CharacterName.Aliases
import Mailroom.Text.CharacterName.Alphabets
import Mailroom.Text.CharacterName.EastAsia
import Mailroom.Text.CharacterName.Historic
import Mailroom.Text.CharacterName.Pictures
import Mailroom.Text.CharacterName.Symbols

/-!
# Characters by name

Every character has a name in capital letters. The syllables of Hangul are named by their
letters, and ideographs by their numbers.

* `CodePoint.named?`: the character of a name. Letters of either case will do, except in the
  names of syllables and of unified ideographs.
-/

namespace Mailroom

/-- The letters of a syllable as names spell them: an initial, a vowel and a final. -/
def syllableLetters : List String × List String × List String :=
  (["G", "GG", "N", "D", "DD", "R", "M", "B", "BB", "S", "SS", "", "J", "JJ", "C", "K", "T",
      "P", "H"],
    ["A", "AE", "YA", "YAE", "EO", "E", "YEO", "YE", "O", "WA", "WAE", "OE", "YO", "U", "WEO",
      "WE", "WI", "YU", "EU", "YI", "I"],
    ["", "G", "GG", "GS", "N", "NJ", "NH", "D", "L", "LG", "LM", "LB", "LS", "LT", "LP", "LH",
      "M", "B", "BS", "S", "SS", "NG", "J", "C", "K", "T", "P", "H"])

/-- The syllable that is spelt by some letters. -/
def syllableNamed? (letters : Text) : Option CodePoint :=
  let (initials, vowels, finals) := syllableLetters
  initials.zipIdx.findSome? fun (initial, i) =>
    vowels.zipIdx.findSome? fun (vowel, v) =>
      finals.zipIdx.findSome? fun (final, f) =>
        if Text.ofString (initial ++ vowel ++ final) = letters then
          some (CodePoint.ofNat (0xAC00 + (i * 21 + v) * 28 + f))
        else none

/-- The code points of unified ideographs. -/
def unifiedIdeographs : List (Nat × Nat) := [
  (0x3400, 0x4DBF), (0x4E00, 0x9FFF), (0x20000, 0x2A6DF), (0x2A700, 0x2B738),
  (0x2B740, 0x2B81D), (0x2B820, 0x2CEA1), (0x2CEB0, 0x2EBE0), (0x30000, 0x3134A)]

/-- The beginnings of names that end in the number of the code point, with the code points. -/
def numberedNames : List (String × List (Nat × Nat)) := [
  ("CJK COMPATIBILITY IDEOGRAPH-", [(0xF900, 0xFA6D), (0xFA70, 0xFAD9), (0x2F800, 0x2FA1D)]),
  ("KHITAN SMALL SCRIPT CHARACTER-", [(0x18B00, 0x18CD5)]),
  ("NUSHU CHARACTER-", [(0x1B170, 0x1B2FB)])]

/-- What follows a beginning of a text, if the text has it. -/
def Text.afterString? (beginning : String) (t : Text) : Option Text :=
  let start := Text.ofString beginning
  if start.isPrefixOf t then some (t.drop start.length) else none

/-- The code point of a number in four or five capital hexadecimal digits that lies in one
of some ranges. -/
def numbered? (ranges : List (Nat × Nat)) (digits : Text) : Option CodePoint :=
  if (digits.length = 4 || digits.length = 5) && !digits.any CodePoint.isAsciiLower then
    match Text.hexNumber? digits with
    | some n =>
      if ranges.any fun (low, high) => low ≤ n && n ≤ high then some (CodePoint.ofNat n) else none
    | none => none
  else none

/-- The name in capital letters, if it has no other characters than ASCII. -/
def capitals? (name : Text) : Option String :=
  if name.isAscii then
    some (String.ofList (name.map fun c =>
      Char.ofNat (if c.isAsciiLower then c.val - 0x20 else c.val)))
  else none

/-- The character of a name in capital letters that a list has. -/
def listed? (name : String) : Option CodePoint :=
  let words := name.splitOn " "
  ((aliasNames.find? (·.2 == name)).map fun entry => CodePoint.ofNat entry.1).or
    ([alphabetNames, symbolNames, eastAsianNames, pictureNames, historicNames].findSome? fun runs =>
      runs.findSome? (·.find? words))

/-- The character of a name in capital letters that ends in its number. The number has five
digits only where it needs them. -/
def endingInNumber? (name : String) : Option CodePoint :=
  numberedNames.findSome? fun (beginning, ranges) =>
    ((Text.ofString name).afterString? beginning).bind fun digits =>
      if digits.length = 5 && digits.head? = some (CodePoint.ofChar '0') then none
      else numbered? ranges digits

/-- The character of a name. -/
def CodePoint.named? (name : Text) : Option CodePoint :=
  match name.afterString? "HANGUL SYLLABLE " with
  | some letters => syllableNamed? letters
  | none => match name.afterString? "CJK UNIFIED IDEOGRAPH-" with
    | some digits => numbered? unifiedIdeographs digits
    | none => (capitals? name).bind fun name => (endingInNumber? name).or (listed? name)

end Mailroom
