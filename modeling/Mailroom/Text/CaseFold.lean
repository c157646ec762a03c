import Mailroom.Text.CaseTable

/-!
# Comparing letters without regard to case

* `CodePoint.variants`: the small letters that count as the same letter;
* `CodePoint.spellings`: all code points that count as the same letter.
-/

namespace Mailroom

/-- Small letters with one capital, so that they count as the same letter. -/
def sharedCapitals : List (List Nat) := [
  [0x69, 0x131], [0x73, 0x17f], [0xb5, 0x3bc], [0x345, 0x3b9, 0x1fbe], [0x390, 0x1fd3],
  [0x3b0, 0x1fe3], [0x3b2, 0x3d0], [0x3b5, 0x3f5], [0x3b8, 0x3d1], [0x3ba, 0x3f0],
  [0x3c0, 0x3d6], [0x3c1, 0x3f1], [0x3c2, 0x3c3], [0x3c6, 0x3d5], [0x432, 0x1c80],
  [0x434, 0x1c81], [0x43e, 0x1c82], [0x441, 0x1c83], [0x442, 0x1c84, 0x1c85], [0x44a, 0x1c86],
  [0x463, 0x1c87], [0x1c88, 0xa64b], [0x1e61, 0x1e9b], [0xfb05, 0xfb06]]

/-- The capital letter to which a run assigns a number. -/
def CodePoint.CapitalRun.capital? (run : CodePoint.CapitalRun) (n : Nat) : Option Nat :=
  if run.small ≤ n then
    let capital := run.first + (n - run.small)
    if capital ≤ run.last && (n - run.small) % run.step == 0 then some capital else none
  else none

namespace CodePoint

/-- The small letters that count as the same letter as a small letter, itself included. -/
def variants (n : Nat) : List Nat := (sharedCapitals.find? (·.contains n)).getD [n]

/-- The code points whose small letter is a given one. -/
def capitals (n : Nat) : List Nat :=
  (if 0x61 ≤ n && n ≤ 0x7A then [n - 0x20] else []) ++ (if n == 0x69 then [0x130] else [])
    ++ capitalRuns.filterMap (·.capital? n)

/-- The code points that count as the same letter. -/
def spellings (c : CodePoint) : List Nat :=
  (variants c.toLower.val).flatMap fun n => n :: capitals n

/-- Two code points count as the same letter. -/
def sameLetter (a b : CodePoint) : Bool := (variants a.toLower.val).contains b.toLower.val

/-- The ASCII letters in lower case, all else unchanged. -/
def toAsciiLower (c : CodePoint) : CodePoint :=
  if c.isAsciiUpper then ofNat (c.val + 0x20) else c

end CodePoint

end Mailroom
