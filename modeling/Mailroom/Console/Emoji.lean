import Mailroom.Console.Emoji.Table
import Mailroom.Text.Lower
import Mailroom.Text.Split
import Mailroom.Text.Blank

/-!
# Emoji by name

A name between two colons stands for an emoji. Behind the name there may be said whether it is
to look like text or like a picture.

* `Emoji.find?`: the emoji of a name;
* `Emoji.Reference`: a name between colons; `Emoji.Reference.shown` is what stands for it;
* `Emoji.expand`: a text with its references replaced.
-/

namespace Mailroom.Emoji

/-- Pictures are made of code points outside ASCII, and of the signs on the keys of a telephone. -/
def isPictorial (n : Nat) : Bool :=
  0xA9 ≤ n || n == 0x23 || n == 0x2A || (0x30 ≤ n && n ≤ 0x39)

/-- The code point of a picture that has a number. -/
def pictorial? (number : Text) : Option CodePoint :=
  ((Text.hexNumber? number).filter isPictorial).bind CodePoint.ofNat?

/-- The code points of an entry of the table, if the entry has a name. -/
def entryOf? (name : Text) (entry : Text) : Option Text :=
  match entry.splitOn ' ' with
  | [] => none
  | entryName :: numbers => if entryName = name then numbers.mapM pictorial? else none

/-- The emoji of a name. -/
def find? (name : Text) : Option Text :=
  emojiTable.findSome? fun line =>
    ((Text.ofString line).splitOn ';').findSome? (entryOf? name)

/-- How an emoji is to look. -/
inductive Look where
  | plain
  | text
  | picture
deriving DecidableEq

/-- What is written behind a name for a look, with the closing colon. -/
def Look.ending : Look → Text
  | plain => ":"
  | text => "-text:"
  | picture => "-emoji:"

/-- The selector of a look, which follows the emoji. -/
def Look.selector : Look → Text
  | plain => []
  | text => [CodePoint.ofNat 0xFE0E]
  | picture => [CodePoint.ofNat 0xFE0F]

/-- A name between colons. -/
structure Reference where
  name : Text
  look : Look
deriving DecidableEq

/-- The look whose ending a text starts with. -/
def endingLook? (t : Text) : Option Look :=
  [Look.picture, Look.text, Look.plain].find? fun look => look.ending.isPrefixOf t

/-- The reference whose opening colon stands before a text. Its name is as short as can be and
holds no blanks. -/
def Reference.before? : Text → Option Reference
  | [] => none
  | c :: t =>
    match endingLook? (c :: t) with
    | some look => some ⟨[], look⟩
    | none =>
      if c.isBlank then none
      else (before? t).map fun r => { r with name := c :: r.name }

/-- A reference as it is written, less the opening colon. -/
def Reference.tail (r : Reference) : Text := r.name ++ r.look.ending

/-- The emoji of a reference. One with an unknown name stands for itself. -/
def Reference.shown (r : Reference) : Text :=
  match find? r.name.lower with
  | some emoji => emoji ++ r.look.selector
  | none => CodePoint.ofChar ':' :: r.tail

/-- A text with its references replaced, from behind some code points on. -/
def expandFrom : Nat → Text → Text
  | _, [] => []
  | skipped + 1, _ :: t => expandFrom skipped t
  | 0, c :: t =>
    match if c = CodePoint.ofChar ':' then Reference.before? t else none with
    | some r => r.shown ++ expandFrom r.tail.length t
    | none => c :: expandFrom 0 t

/-- A text with its references replaced. -/
def expand (t : Text) : Text := expandFrom 0 t

theorem endingLook?_some {t : Text} {look : Look} (h : endingLook? t = some look) :
    look.ending.isPrefixOf t = true := by
  simpa using List.find?_some (p := fun look : Look => look.ending.isPrefixOf t) h

/-- The reference found before a text is what the text starts with. -/
theorem Reference.tail_isPrefix_of_before? {t : Text} {r : Reference} (h : before? t = some r) :
    ∃ rest, t = r.tail ++ rest := by
  induction t generalizing r with
  | nil => simp [before?] at h
  | cons c t ih =>
    unfold before? at h
    split at h
    · rename_i look hl
      obtain rfl := Option.some.inj h
      obtain ⟨rest, hr⟩ := List.isPrefixOf_iff_prefix.1 (endingLook?_some hl)
      exact ⟨rest, by simp [Reference.tail, hr]⟩
    · split at h
      · simp at h
      · obtain ⟨s, hs, rfl⟩ := Option.map_eq_some_iff.1 h
        obtain ⟨rest, hr⟩ := ih hs
        exact ⟨rest, by simp [Reference.tail, hr]⟩

/-- A text without colons holds no references. -/
theorem expand_of_not_mem {t : Text} (h : CodePoint.ofChar ':' ∉ t) : expand t = t := by
  unfold expand
  induction t with
  | nil => rfl
  | cons c t ih =>
    simp at h
    simp [expandFrom, Ne.symm h.1, ih h.2]

end Mailroom.Emoji
