import Mailroom.Console.Cells
import Mailroom.Text.Blank
import Mailroom.Text.Split

/-!
# Lines on a page of some width

* `Layout.expandTabs`: a line with its tabs replaced by spaces up to the next tab stop;
* `Layout.pieces`: words with the blanks around them, which together are the line;
* `Layout.wrap`: a line broken between words, or within words that are too long for any line;
* `Layout.fill`: the lines of a text, each broken so that it fits.
-/

namespace Mailroom.Layout

/-- The distance of tab stops. -/
def tabStop : Nat := 8

/-- A line from some column on, with its tabs replaced by spaces up to the next tab stop. The
part before a tab is measured together with a space that takes the place of the tab. -/
def expandTabsFrom (column : Nat) : List Text → Text
  | [] => []
  | [part] => part
  | part :: parts =>
    let spaced := part ++ [CodePoint.ofChar ' ']
    let reached := column + spaced.columns
    let count := (tabStop - reached % tabStop) % tabStop
    spaced ++ List.replicate count (CodePoint.ofChar ' ') ++ expandTabsFrom (reached + count) parts

/-- A line with its tabs replaced by spaces. -/
def expandTabs (t : Text) : Text := expandTabsFrom 0 (t.splitOn (CodePoint.ofNat 0x09))

/-- The blanks that a text starts with, and the words behind them, each with the blanks that
follow it. -/
def blanksAndPieces : Text → Text × List Text
  | [] => ([], [])
  | c :: t =>
    let (blanks, words) := blanksAndPieces t
    if c.isBlank then (c :: blanks, words)
    else match blanks, words with
      | [], word :: words => ([], (c :: word) :: words)
      | _, _ => ([], (c :: blanks) :: words)

/-- Words with the blanks that follow them; the first has those in front of it as well. There are
none in a line of blanks. -/
def pieces (t : Text) : List Text :=
  match blanksAndPieces t with
  | (_, []) => []
  | (blanks, word :: words) => (blanks ++ word) :: words

/-- Parts of a word that fit into some columns each, the first behind what has been put into its
line already. -/
def chopFrom (width used : Nat) : List Text.Picture → Text × List Text
  | [] => ([], [])
  | picture :: pictures =>
    if used + picture.columns > width then
      let (part, parts) := chopFrom width picture.columns pictures
      ([], (picture.text ++ part) :: parts)
    else
      let (part, parts) := chopFrom width (used + picture.columns) pictures
      (picture.text ++ part, parts)

/-- Parts of a word that fit into some columns each. -/
def chop (width : Nat) (word : Text) : List Text :=
  let (part, parts) := chopFrom width 0 word.pictures
  part :: parts

/-- A finished line in front of others; an empty one is left out. -/
def consLine (line : Text) (lines : List Text) : List Text :=
  if line.isEmpty then lines else line :: lines

/-- Lines from words, behind what is on the line already and the columns it takes up. A word
counts without the blanks that follow it. -/
def wrapFrom (width : Nat) (line : Text) (used : Nat) : List Text → List Text
  | [] => [line]
  | word :: words =>
    let needed := word.trimRight.columns
    if used + needed ≤ width then wrapFrom width (line ++ word) (used + word.columns) words
    else if needed ≤ width then line :: wrapFrom width word word.columns words
    else
      let parts := chop width word
      let last := parts.getLast?.getD []
      consLine line (parts.dropLast ++ wrapFrom width last last.columns words)

/-- A line without the blanks at its end for which there is no room. -/
def withoutExcess (width : Nat) (t : Text) : Text :=
  let blanks := t.length - t.trimRight.length
  t.take (t.length - min blanks (t.length - width))

/-- The beginning of a text that fits into some columns. A space fills the column of a picture
that is cut in two. -/
def takeColumns (width : Nat) : List Text.Picture → Text
  | [] => []
  | picture :: pictures =>
    if width = 0 then []
    else if picture.columns ≤ width then
      picture.text ++ takeColumns (width - picture.columns) pictures
    else [CodePoint.ofChar ' ']

/-- A line that is cut to some columns if it is too long. -/
def crop (width : Nat) (t : Text) : Text :=
  if t.columns ≤ width then t else takeColumns width t.pictures

/-- A line broken into lines that fit. -/
def wrap (width : Nat) (t : Text) : List Text :=
  let lines := match pieces t with
    | [] => [t]
    | words => wrapFrom width [] 0 words
  lines.map fun line => crop width (withoutExcess width line)

/-- The lines of a text, each broken so that it fits. -/
def fill (width : Nat) (t : Text) : Text :=
  Text.join [CodePoint.ofNat 0x0A]
    ((t.splitOn (CodePoint.ofNat 0x0A)).flatMap fun line => wrap width (expandTabs line))

end Mailroom.Layout
