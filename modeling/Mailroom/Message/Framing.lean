import Mailroom.Text.CodePoint

/-!
# Lines of a message

* `Framing.lines`: the lines of some octets, whichever of the three line ends they use;
* `Framing.untilDot`: the lines before the first that holds a dot alone;
* `Framing.beforeDot`: the part of a stream before such a line;
* `Framing.split`: the lines of the header and the body.
-/

namespace Mailroom.Framing

/-- The lines between line ends: carriage return, line feed or both. There is one more line
than there are line ends. -/
def split : Octets → List Octets
  | [] => [[]]
  | b :: rest =>
    if b.toNat = 0x0A then [] :: split rest
    else if b.toNat = 0x0D then
      match rest with
      | c :: rest' => if c.toNat = 0x0A then [] :: split rest' else [] :: split (c :: rest')
      | [] => [[], []]
    else match split rest with
      | line :: lines => (b :: line) :: lines
      | [] => [[b]]

/-- The lines of some octets. A line end at the very end begins no line. -/
def lines (octets : Octets) : List Octets :=
  let all := split octets
  if all.getLast? = some [] then all.dropLast else all

/-- The line that ends a message. -/
def dot : Octets := [0x2E]

/-- The lines before the first that holds a dot alone. -/
def untilDot (lines : List Octets) : List Octets := lines.takeWhile fun line => line ≠ dot

/-- The pieces of a stream that end in a line feed each, and what is left. -/
def streamLines : Octets → List Octets
  | [] => []
  | b :: rest =>
    if b.toNat = 0x0A then [b] :: streamLines rest
    else match streamLines rest with
      | line :: lines => (b :: line) :: lines
      | [] => [[b]]

/-- A line without carriage returns and line feeds at its end. -/
def withoutEnd (line : Octets) : Octets :=
  (line.reverse.dropWhile fun b => b.toNat == 0x0A || b.toNat == 0x0D).reverse

/-- The part of a stream before the first line that holds a dot alone. -/
def beforeDot (octets : Octets) : Octets :=
  ((streamLines octets).takeWhile fun line => withoutEnd line ≠ dot).flatten

/-- Lines with carriage return and line feed between them. -/
def join (lines : List Octets) : Octets := ([0x0D, 0x0A] : Octets).intercalate lines

/-- The lines of the header, which ends at the first empty line, and the body after it. -/
def headAndBody (lines : List Octets) : List Octets × Octets :=
  (lines.takeWhile (· ≠ []), join ((lines.dropWhile (· ≠ [])).drop 1))

@[simp] theorem split_nil : split [] = [[]] := rfl

theorem flatten_streamLines (octets : Octets) : (streamLines octets).flatten = octets := by
  induction octets with
  | nil => rfl
  | cons b rest ih =>
    unfold streamLines
    split
    · simp [ih]
    · split
      · rename_i line lines h
        rw [h] at ih
        simp at ih
        simp [ih]
      · rename_i h
        rw [h] at ih
        simp at ih
        simp [← ih]

end Mailroom.Framing
