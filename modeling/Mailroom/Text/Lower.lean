import Mailroom.Text.CaseTable

/-!
# Lower case of a text

* `Text.lower`: small letters throughout. The capital sigma takes its final form at the
  end of a word, and the dotted capital I keeps its dot as a combining mark.
-/

namespace Mailroom.Text

/-- The first code point that is not passed over is a letter. -/
def startsWithLetter : Text → Bool
  | [] => false
  | c :: t => if c.isCaseIgnorable then startsWithLetter t else c.isCased

/-- Lower case, knowing whether the last code point that is not passed over was a letter. -/
def lowerAfter (letterBefore : Bool) : Text → Text
  | [] => []
  | c :: t =>
    let small : Text :=
      if c.val == 0x3A3 then
        [CodePoint.ofNat (if letterBefore && !startsWithLetter t then 0x3C2 else 0x3C3)]
      else if c.val == 0x130 then [CodePoint.ofChar 'i', CodePoint.ofNat 0x307]
      else [c.toLower]
    small ++ lowerAfter (if c.isCaseIgnorable then letterBefore else c.isCased) t

/-- Small letters throughout. -/
def lower (t : Text) : Text := lowerAfter false t

@[simp] theorem lower_nil : lower [] = [] := rfl

end Mailroom.Text
