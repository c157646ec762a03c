import Mailroom.Text.Blank
import Mailroom.Text.Digit
import Mailroom.Text.UpperCase
import Mailroom.Text.WordChar

/-!
# Patterns

Regular expressions with back references, look-around and three kinds of repetition, as
trees in which all flags have been resolved.

* `Pattern`: the trees;
* `Pattern.Test`: what a single code point has to be, and `Test.accepts`;
* `Pattern.Width`, `Pattern.width`: how short and how long a match can be;
* `Pattern.opening`: what a match begins with.
-/

namespace Mailroom

namespace Pattern

/-- How letters are compared: as they are, or without regard to case, among ASCII letters
or among all. -/
inductive Fold where
  | exact
  | ascii
  | full
deriving DecidableEq

/-- The classes of code points that have a name. -/
inductive Category where
  | digit
  | space
  | word
deriving DecidableEq

/-- An item of a set of code points. -/
inductive SetItem where
  | char (c : CodePoint)
  | range (low high : CodePoint)
  | category (category : Category) (negated asciiOnly : Bool)
deriving DecidableEq

/-- What a single code point has to be. -/
inductive Test where
  | char (c : CodePoint) (negated : Bool)
  | any (lineFeed : Bool)
  | set (items : List SetItem) (negated : Bool)
deriving DecidableEq

/-- The code point belongs to a class. -/
def Category.contains (category : Category) (asciiOnly : Bool) (c : CodePoint) : Bool :=
  match category, asciiOnly with
  | digit, true => c.isAsciiDigit
  | digit, false => c.isDecimalDigit
  | space, true => c.within 0x09 0x0D || c.val == 0x20
  | space, false => c.isBlank
  | word, true => c.isAsciiLetter || c.isAsciiDigit || c.val == 0x5F
  | word, false => c.isWordChar

/-- Two code points are the same under a way to compare letters. -/
def Fold.same : Fold → CodePoint → CodePoint → Bool
  | exact, a, b => a.val == b.val
  | ascii, a, b => a.toAsciiLower.val == b.toAsciiLower.val
  | full, a, b => CodePoint.sameLetter a b

/-- The code point is beyond the first 65536, where sets keep their items as they are written. -/
def isHigh (c : CodePoint) : Bool := decide (0x10000 ≤ c.val)

/-- The small letter under a way to compare letters. -/
def Fold.lower (fold : Fold) (c : CodePoint) : CodePoint :=
  match fold with
  | exact => c
  | ascii => c.toAsciiLower
  | full => c.toLower

/-- The code point, or another that is the same, lies in a range. Of a range that goes beyond
the first 65536 code points, the small letter or its capital has to lie in the range; below,
any code point that counts as the same letter will do. -/
def Fold.inRange (fold : Fold) (low high c : CodePoint) : Bool :=
  match fold with
  | exact => c.within low.val high.val
  | fold =>
    let small := fold.lower c
    let below :=
      if fold = ascii then [small, small.toAsciiUpper] else c.spellings.map CodePoint.ofNat
    below.any (fun d => !isHigh d && d.within low.val high.val)
      || (isHigh high && (small.within low.val high.val || small.toUpper.within low.val high.val))

/-- The code point is an item of a set. Beyond the first 65536, the small letter has to be the
item itself. -/
def Fold.sameInSet (fold : Fold) (item c : CodePoint) : Bool :=
  if isHigh item then (fold.lower c).val == item.val else fold.same item c

/-- The code point belongs to an item of a set. -/
def SetItem.contains (fold : Fold) (c : CodePoint) : SetItem → Bool
  | char d => fold.sameInSet d c
  | range low high => fold.inRange low high c
  | category kind negated asciiOnly => kind.contains asciiOnly (fold.lower c) != negated

/-- Letter case can make a difference to an item of a set. -/
def SetItem.hasCase (ascii : Bool) : SetItem → Bool
  | char c => isHigh c || (if ascii then c.isAsciiLetter else c.hasCase)
  | range low high =>
    isHigh high || (if ascii then meetsAsciiLetters low high else CodePoint.anyHasCase low high)
  | category .. => false
where
  /-- Some ASCII letter lies in a range. -/
  meetsAsciiLetters (low high : CodePoint) : Bool :=
    meetsRuns [0x41, 0x5B, 0x61, 0x7B] low.val high.val

/-- The code point passes the test. -/
def Test.accepts (fold : Fold) (c : CodePoint) : Test → Bool
  | char d negated => fold.same d c != negated
  | any lineFeed => lineFeed || c.val != 0x0A
  | set items negated => items.any (·.contains fold c) != negated

/-- Places in a text. -/
inductive Anchor where
  | textStart
  | lineStart
  | textEnd
  /-- The end, or right before a line feed that is the last code point. -/
  | lastLineEnd
  | lineEnd
  | boundary (negated asciiOnly : Bool)
deriving DecidableEq

/-- Which number of repetitions is tried first. The possessive kind tries no other. -/
inductive Greed where
  | most
  | least
  | possessive
deriving DecidableEq

/-- The least and greatest number of code points of a match, the first below 2^32 - 1 and the
second at most that. -/
structure Width where
  low : Nat
  high : Nat
deriving DecidableEq

/-- The bound of widths, which also stands for no bound at all. -/
def Width.bound : Nat := Nat.pow 2 32 - 1

/-- The width with both ends within the bounds. -/
def Width.capped (low high : Nat) : Width := ⟨min low (Width.bound - 1), min high Width.bound⟩

end Pattern

/-- A regular expression. Groups with an index can be referred to; groups without one only set
flags. Alternatives end in the pattern that never matches. -/
inductive Pattern where
  | empty
  | never
  | test (fold : Pattern.Fold) (test : Pattern.Test)
  | anchor (anchor : Pattern.Anchor)
  | cat (left right : Pattern)
  | alt (left right : Pattern)
  | group (index : Option Nat) (body : Pattern)
  | repeated (least : Nat) (most : Option Nat) (greed : Pattern.Greed) (body : Pattern)
  | atomic (body : Pattern)
  | look (behind negated : Bool) (body : Pattern)
  | backReference (fold : Pattern.Fold) (index : Nat) (width : Pattern.Width)
  | choice (index : Nat) (present absent : Pattern)
deriving DecidableEq

namespace Pattern

instance : Inhabited Pattern := ⟨empty⟩

/-- How short and how long a match can be. -/
def width : Pattern → Width
  | empty | anchor _ | look .. => ⟨0, 0⟩
  | never => ⟨Width.bound - 1, 0⟩
  | test .. => ⟨1, 1⟩
  | cat a b => Width.capped (a.width.low + b.width.low) (a.width.high + b.width.high)
  | alt a b => ⟨min a.width.low b.width.low, max a.width.high b.width.high⟩
  | group _ body | atomic body => body.width
  | repeated least most _ body =>
    let w := body.width
    let high := match most with
      | some most => w.high * most
      | none => if w.high = 0 then 0 else Width.bound
    Width.capped (w.low * least) high
  | backReference _ _ w => w
  | choice _ present absent =>
    ⟨min present.width.low absent.width.low, max present.width.high absent.width.high⟩

/-- Patterns in a row. -/
def ofList : List Pattern → Pattern
  | [] => empty
  | [p] => p
  | p :: q :: ps => cat p (ofList (q :: ps))

/-- Alternatives. -/
def ofAlternatives (ps : List Pattern) : Pattern := ps.foldr alt never

/-- The patterns in a row that a pattern consists of. -/
def toList : Pattern → List Pattern
  | empty => []
  | cat p q => p :: toList q
  | p => [p]

/-- What the pattern requires of a single code point, if it is about a single code point. -/
def single? : Pattern → Option (Fold × Test)
  | test fold t => some (fold, t)
  | group none body => single? body
  | _ => none

/-- What comes first when a pattern is matched: nothing at all, a test of a code point, or
something else. -/
inductive Opening where
  | nothing
  | test (fold : Fold) (test : Test)
  | other
deriving DecidableEq

/-- The opening of a pattern before something with an opening. -/
def opening (p : Pattern) (next : Opening) : Opening :=
  match p with
  | empty => next
  | test fold t => .test fold t
  | group none body => opening body next
  | cat a b => opening a (opening b next)
  | _ => .other

@[simp] theorem width_empty : empty.width = ⟨0, 0⟩ := rfl

@[simp] theorem ofList_nil : ofList [] = empty := rfl

@[simp] theorem ofList_singleton (p : Pattern) : ofList [p] = p := rfl

end Pattern

end Mailroom
