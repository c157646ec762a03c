import Mailroom.Text.CodePoint

/-!
# Lists of names with shared beginnings

Most names begin with the words that the name before them begins with. A run of names for
consecutive code points leaves those words out.

* `NameRun`: a first code point with the names from there on;
* `agreement`: how many words at the beginning of two names agree;
* `NameRun.find?`: the code point of a name in a run.
-/

namespace Mailroom

/-- The names of consecutive code points, and the first of these. The names are separated by
semicolons or line ends. Each is a digit, which says how many words it shares with the
beginning of the name before it, and its other words. An empty one is for a code point
without a name. -/
abbrev NameRun := Nat × String

/-- How many words at the beginning of two names agree. -/
def agreement : List String → List String → Nat
  | v :: vs, w :: ws => if v = w then agreement vs ws + 1 else 0
  | _, _ => 0

namespace NameRun

/-- The parts of a run, one for each code point. -/
def parts (run : NameRun) : List String := (run.2.splitOn "\n").flatMap (·.splitOn ";")

/-- The place of a name in words among some parts, given how many of its words agree with the
name before them, and the place of the first part. Where a name shares more words than that
with the name before it, it agrees in the same words. -/
def placeOf? (words : List String) : (agreed place : Nat) → List String → Option Nat
  | _, _, [] => none
  | agreed, place, part :: later =>
    match part.toList with
    | [] => placeOf? words agreed (place + 1) later
    | digit :: rest =>
      let shared := digit.toNat - '0'.toNat
      if agreed < shared then placeOf? words agreed (place + 1) later
      else
        let own := (String.ofList rest).splitOn " "
        let now := shared + agreement own (words.drop shared)
        if now = words.length && shared + own.length = words.length then some place
        else placeOf? words now (place + 1) later

/-- The code point of a name in words. -/
def find? (run : NameRun) (words : List String) : Option CodePoint :=
  (placeOf? words 0 0 run.parts).map fun place => CodePoint.ofNat (run.1 + place)

end NameRun

theorem agreement_self (words : List String) : agreement words words = words.length := by
  induction words with
  | nil => rfl
  | cons w ws ih => simp [agreement, ih]

/-- No more words agree than there are. -/
theorem agreement_le_left (vs ws : List String) : agreement vs ws ≤ vs.length := by
  induction vs generalizing ws with
  | nil => simp [agreement]
  | cons v vs ih =>
    cases ws with
    | nil => simp [agreement]
    | cons w ws =>
      by_cases h : v = w
      · simpa [agreement, h] using ih ws
      · simp [agreement, h]

end Mailroom
