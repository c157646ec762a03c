import Mailroom.Pattern.Problem

/-!
# Searching with patterns

A match is found by trying alternatives in order and going back to the latest choice that
is left when the rest does not match. What was seen on the way, in attempts that failed too, is
kept in a memory: where groups began and ended, and where the latest attempt stood. Going back
forgets groups that were entered since, but the places of groups entered before are put back only
inside of repetitions. So a group can be left with a beginning from one turn of a repetition and
an end from an earlier one; it counts as matched unless it begins behind its end.

* `Pattern.Memory`: what is remembered across attempts;
* `Pattern.run`: the first way to match a pattern and then whatever has to follow;
* `Pattern.occursIn`: the pattern matches somewhere in a text.
-/

namespace Mailroom.Pattern

/-- What is remembered across attempts: a place in the text, and the places where groups began
and ended, in pairs, as far as they have been seen. -/
structure Memory where
  cursor : Nat
  marks : List (Option Nat)
deriving DecidableEq

namespace Memory

/-- Nothing has been seen. -/
def atPlace (place : Nat) : Memory := ⟨place, []⟩

/-- The memory with its cursor moved. -/
def moveTo (place : Nat) (m : Memory) : Memory := { m with cursor := place }

/-- The memory with a mark set; marks before it that have not been seen are empty. -/
def mark (index place : Nat) (m : Memory) : Memory :=
  if index < m.marks.length then { m with marks := m.marks.set index (some place) }
  else
    let gap := List.replicate (index - m.marks.length) none
    { m with marks := m.marks ++ gap ++ [some place] }

/-- The marks as they were at an earlier time: all of them as they were, or only those made
since then forgotten. -/
def goBack (all : Bool) (earlier now : Memory) : Memory :=
  { now with marks := if all then earlier.marks else now.marks.take earlier.marks.length }

/-- Where a group began and ended. -/
def group? (index : Nat) (m : Memory) : Option (Nat × Nat) :=
  match (m.marks[2 * index - 2]?).join, (m.marks[2 * index - 1]?).join with
  | some start, some stop => if start ≤ stop then some (start, stop) else none
  | _, _ => none

/-- Some group begins behind its end. -/
def hasCrossing (m : Memory) : Bool := crossing m.marks
where
  /-- Some pair of marks is in the wrong order. -/
  crossing : List (Option Nat) → Bool
    | some start :: some stop :: rest => decide (stop < start) || crossing rest
    | _ :: _ :: rest => crossing rest
    | _ => false

@[simp] theorem cursor_moveTo (place : Nat) (m : Memory) : (m.moveTo place).cursor = place := rfl

@[simp] theorem marks_moveTo (place : Nat) (m : Memory) : (m.moveTo place).marks = m.marks := rfl

@[simp] theorem marks_goBack_all (earlier now : Memory) :
    (goBack true earlier now).marks = earlier.marks := rfl

end Memory

/-- What has come of an attempt. -/
structure Outcome where
  found : Bool
  memory : Memory
deriving DecidableEq

/-- A way to go on from a place. -/
abbrev Step := Nat → Memory → Outcome

/-- The end of a pattern: it has matched. -/
def finish : Step := fun place m => ⟨true, m.moveTo place⟩

/-- The outcome, or what comes of another attempt after it has failed. -/
def Outcome.orElse (o : Outcome) (next : Memory → Outcome) : Outcome :=
  if o.found then o else next o.memory

/-- The outcome with the cursor moved if it is a failure. -/
def Outcome.failingAt (place : Nat) (o : Outcome) : Outcome :=
  if o.found then o else ⟨false, o.memory.moveTo place⟩

/-- The place is where an anchor stands. Nothing is a boundary, and nothing is none, in a
text without code points. -/
def Anchor.holds (text : Array CodePoint) (place : Nat) (a : Anchor) : Bool :=
  let before : Option CodePoint := if place = 0 then none else text[place - 1]?
  let after : Option CodePoint := text[place]?
  let lineFeed (c : CodePoint) : Bool := c.val == 0x0A
  match a with
  | textStart => place == 0
  | lineStart => place == 0 || before.any lineFeed
  | textEnd => place == text.size
  | lastLineEnd => place == text.size || (place + 1 == text.size && after.any lineFeed)
  | lineEnd => place == text.size || after.any lineFeed
  | boundary negated asciiOnly =>
    if text.isEmpty then false
    else
      let word := Category.word.contains asciiOnly
      (before.any word != after.any word) != negated

/-- The code point at a place passes a test. -/
def passes (text : Array CodePoint) (fold : Fold) (t : Test) (place : Nat) : Bool :=
  (text[place]?).any (t.accepts fold)

/-- How many code points from a place on pass a test, up to a bound. -/
def countFrom (text : Array CodePoint) (fold : Fold) (t : Test) (place : Nat) : Nat → Nat
  | 0 => 0
  | bound + 1 =>
    if passes text fold t place then countFrom text fold t (place + 1) bound + 1 else 0

/-- The place after a stretch of the text that occurs again. -/
def afterCopy? (text : Array CodePoint) (fold : Fold) (start place : Nat) : Nat → Option Nat
  | 0 => some place
  | length + 1 =>
    match text[start]?, text[place]? with
    | some c, some d =>
      if (fold.lower c).val = (fold.lower d).val then
        afterCopy? text fold (start + 1) (place + 1) length
      else none
    | _, _ => none

/-- Several letters count as the one to be found, or a set has to be searched in small letters:
such a test is repeated by moving the cursor. -/
def Test.movesCursor (fold : Fold) : Test → Bool
  | char c _ => fold = .full && 1 < (CodePoint.variants c.toLower.val).length
  | any _ => false
  | set .. => fold ≠ .exact

/-- Another repetition is allowed. -/
def mayRepeat (most : Option Nat) (count : Nat) : Bool := most.all fun m => count < m

/-- Greedy repetition: as many as possible, but none after one that took nothing. -/
def repeatMost (body : Step → Step) (least : Nat) (most : Option Nat) (next : Step) :
    Nat → Nat → Option Nat → Step
  | 0, _, _ => next
  | budget + 1, count, last => fun place m =>
    let m := m.moveTo place
    if count < least then
      (body (repeatMost body least most next budget (count + 1) last) place m).failingAt place
    else
      let again :=
        if mayRepeat most count && last ≠ some place then
          body (repeatMost body least most next budget (count + 1) (some place)) place m
        else ⟨false, m⟩
      again.orElse fun later =>
        (next place ((m.goBack true later).moveTo place)).failingAt place

/-- Reluctant repetition: as few as possible. -/
def repeatLeast (body : Step → Step) (least : Nat) (most : Option Nat) (inLoop : Bool)
    (next : Step) : Nat → Nat → Option Nat → Step
  | 0, _, _ => next
  | budget + 1, count, last => fun place m =>
    let m := m.moveTo place
    if count < least then
      (body (repeatLeast body least most inLoop next budget (count + 1) last) place m).failingAt
        place
    else
      (next place m).orElse fun later =>
        let later := (m.goBack inLoop later).moveTo place
        if mayRepeat most count && last ≠ some place then
          (body (repeatLeast body least most inLoop next budget (count + 1) (some place)) place
            later).failingAt place
        else ⟨false, later⟩

/-- Possessive repetition: as many as possible, each matched in its first way, from the cursor.
A turn that fails leaves the cursor where it got to. -/
def repeatAll (body : Step → Step) (least : Nat) (most : Option Nat) :
    Nat → Nat → Option Nat → Memory → Outcome
  | 0, _, _, m => ⟨true, m⟩
  | budget + 1, count, last, m =>
    if count < least then
      let o := body finish m.cursor m
      if o.found then repeatAll body least most budget (count + 1) last o.memory else o
    else if mayRepeat most count && last ≠ some m.cursor then
      let o := body finish m.cursor m
      if o.found then repeatAll body least most budget (count + 1) (some m.cursor) o.memory
      else ⟨true, m.goBack true o.memory⟩
    else ⟨true, m⟩

/-- From the most repetitions of a test down to the least, the first after which the rest
matches; only places that are `likely` to go on are tried. -/
def giveBack (next : Step) (inLoop : Bool) (likely : Nat → Bool) (earlier : Memory) (first : Nat) :
    Nat → Memory → Outcome
  | extra, m =>
    let place := first + extra
    let o := if likely place then next place (m.moveTo place) else ⟨false, m⟩
    o.orElse fun later =>
      let later := earlier.goBack inLoop later
      match extra with
      | 0 => ⟨false, later⟩
      | extra + 1 => giveBack next inLoop likely earlier first extra later

/-- From the least repetitions of a test up, the first after which the rest matches. -/
def takeMore (next : Step) (inLoop : Bool) (accepts : Nat → Bool) (movesCursor : Bool)
    (earlier : Memory) : Nat → Nat → Memory → Outcome
  | extra, place, m =>
    (next place (m.moveTo place)).orElse fun later =>
      let later := (earlier.goBack inLoop later).moveTo place
      if accepts place then
        match extra with
        | 0 => ⟨false, if movesCursor then later.moveTo (place + 1) else later⟩
        | extra + 1 => takeMore next inLoop accepts movesCursor earlier extra (place + 1) later
      else ⟨false, later⟩

/-- A test repeated. -/
def runCounted (text : Array CodePoint) (fold : Fold) (t : Test) (least : Nat) (most : Option Nat)
    (greed : Greed) (inLoop : Bool) (likely : Nat → Bool) (next : Step) : Step := fun place m =>
  let room := text.size - place
  if room < least then ⟨false, m⟩
  else
    let bound := match greed with
      | .least => least
      | _ => (most.map (min room)).getD room
    let count := countFrom text fold t place bound
    let m := m.moveTo (if t.movesCursor fold then place + count else place)
    if count < least then ⟨false, m⟩
    else match greed with
      | .most => giveBack next inLoop likely m (place + least) (count - least) m
      | .least =>
        let more := (most.map fun most => min (most - least) room).getD room
        takeMore next inLoop (passes text fold t) (t.movesCursor fold) m more (place + least) m
      | .possessive => next (place + count) m

/-- An alternative that opens with a test of the code points as they are is passed over unless
the test is met. -/
def mayOpen (text : Array CodePoint) (place : Nat) (p : Pattern) : Bool :=
  match p.opening .other with
  | .test .exact (.char c false) => passes text .exact (.char c false) place
  | .test .exact (.set items negated) => passes text .exact (.set items negated) place
  | _ => true

/-- The places where a pattern with a given opening is likely to match. -/
def likelyPlace (text : Array CodePoint) (opening : Opening) (place : Nat) : Bool :=
  match opening with
  | .test .exact (.char c false) => passes text .exact (.char c false) place
  | _ => true

/-- The outcome of the first way to match a pattern from a place, and then `next`, which has an
opening of its own. Inside of a repetition, going back puts all marks back. -/
def run (text : Array CodePoint) : Pattern → Bool → Opening → Step → Step
  | empty, _, _, next => next
  | never, _, _, _ => fun _ m => ⟨false, m⟩
  | test fold t, _, _, next => fun place m =>
    if passes text fold t place then next (place + 1) m else ⟨false, m⟩
  | anchor a, _, _, next => fun place m =>
    if a.holds text place then next place m else ⟨false, m⟩
  | cat a b, inLoop, after, next =>
    run text a inLoop (b.opening after) (run text b inLoop after next)
  | alt a b, inLoop, after, next => fun place m =>
    let first :=
      if mayOpen text place a then run text a inLoop .other next place (m.moveTo place)
      else ⟨false, m⟩
    first.orElse fun later => run text b inLoop after next place (m.goBack inLoop later)
  | group none body, inLoop, after, next => run text body inLoop after next
  | group (some index) body, inLoop, _, next => fun place m =>
    run text body inLoop .other (fun stop m => next stop (m.mark (2 * index - 1) stop)) place
      (m.mark (2 * index - 2) place)
  | repeated least most greed body, inLoop, after, next =>
    match body.single? with
    | some (fold, t) =>
      runCounted text fold t least most greed inLoop (likelyPlace text after) next
    | none => fun place m =>
      let budget := least + 2 * text.size + 4
      let m := m.moveTo place
      match greed with
      | .most => repeatMost (run text body true .other) least most next budget 0 none place m
      | .least =>
        repeatLeast (run text body true .other) least most inLoop next budget 0 none place m
      | .possessive =>
        let o := repeatAll (run text body inLoop .other) least most budget 0 none m
        if o.found then next o.memory.cursor o.memory else o.failingAt place
  | atomic body, inLoop, _, next => fun place m =>
    let o := run text body inLoop .other finish place (m.moveTo place)
    if o.found then next o.memory.cursor o.memory else o.failingAt place
  | look behind negated body, inLoop, _, next => fun place m =>
    let back := if behind then body.width.low else 0
    if place < back then (if negated then next place m else ⟨false, m⟩)
    else
      let start := place - back
      let o := run text body inLoop .other finish start (m.moveTo start)
      match o.found, negated with
      | true, false => next place o.memory
      | false, true => next place (m.goBack inLoop o.memory)
      | _, _ => ⟨false, o.memory⟩
  | backReference fold index _, _, _, next => fun place m =>
    match m.group? index with
    | some (start, stop) => match afterCopy? text fold start place (stop - start) with
      | some place => next place m
      | none => ⟨false, m⟩
    | none => ⟨false, m⟩
  | choice index present absent, inLoop, after, next => fun place m =>
    if (m.group? index).isSome then
      run text present inLoop (if absent = empty then after else .other) next place m
    else run text absent inLoop after next place m

/-- The outcome of the first place, from one on, where a pattern matches; `more` places after it
are left. -/
def searchFrom (text : Array CodePoint) (p : Pattern) (place : Nat) : Nat → Outcome
  | 0 => run text p false .other finish place (.atPlace place)
  | more + 1 =>
    (run text p false .other finish place (.atPlace place)).orElse fun _ =>
      searchFrom text p (place + 1) more

/-- The pattern matches somewhere in a text that is long enough. -/
def occursIn (p : Pattern) (t : Text) : Except Breakdown Bool :=
  let text := t.toArray
  let least := p.width.low
  if text.size < least then .ok false
  else
    let o := searchFrom text p 0 (text.size - (least - 1))
    if o.found && o.memory.hasCrossing then .error .crossedGroup else .ok o.found

theorem run_empty (text : Array CodePoint) (inLoop : Bool) (after : Opening) (next : Step) :
    run text empty inLoop after next = next := rfl

theorem run_cat (text : Array CodePoint) (a b : Pattern) (inLoop : Bool) (after : Opening)
    (next : Step) :
    run text (cat a b) inLoop after next =
      run text a inLoop (b.opening after) (run text b inLoop after next) := rfl

end Mailroom.Pattern
