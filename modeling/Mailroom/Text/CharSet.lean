import Mailroom.Text.CodePoint

/-!
# Sets of code points as runs

* `inRuns`: membership in a set written as `start, end, start, end, …`, where each end
  is the first number after its run and the numbers increase;
* `meetsRuns`: some number between two others is in the set.
-/

namespace Mailroom

/-- The number lies in one of the runs; they are sorted, so the search stops early. -/
def inRuns : List Nat → Nat → Bool
  | start :: stop :: rest, n => decide (start ≤ n) && (decide (n < stop) || inRuns rest n)
  | _, _ => false

/-- Some number from `low` to `high` lies in one of the runs. -/
def meetsRuns : List Nat → Nat → Nat → Bool
  | start :: stop :: rest, low, high =>
    decide (start ≤ high) && (decide (low < stop) || meetsRuns rest low high)
  | _, _, _ => false

theorem inRuns_nil (n : Nat) : inRuns [] n = false := rfl

theorem inRuns_of_lt {start stop n : Nat} {rest : List Nat} (h : n < start) :
    inRuns (start :: stop :: rest) n = false := by
  simp [inRuns]
  omega

end Mailroom
