import Mailroom.Text.Lower
import Mailroom.Text.Split

/-!
# Field names

* `FieldName.isToken`: the characters allowed in a field name;
* `FieldName.isValid`: a token, after which one line feed is passed over;
* `FieldName.canonical`: the form under which a field is stored and looked up.
-/

namespace Mailroom.FieldName

/-- The marks allowed in a field name beside letters and digits. -/
def tokenMarks : Text := "!#$%&'*+-.^_\x60|~"

/-- A letter, a digit or a mark that a field name may hold. -/
def isTokenChar (c : CodePoint) : Bool :=
  c.isAsciiLetter || c.isAsciiDigit || tokenMarks.contains c

/-- The text is a token: not empty, and made of allowed characters alone. -/
def isToken (t : Text) : Bool := !t.isEmpty && t.all isTokenChar

/-- The text without one line feed at its end. -/
def dropLineFeed (t : Text) : Text :=
  match t.reverse with
  | c :: rest => if c.val = 0x0A then rest.reverse else t
  | [] => t

theorem dropLineFeed_eq_self {t : Text} (h : ∀ c, t.reverse.head? = some c → c.val ≠ 0x0A) :
    dropLineFeed t = t := by
  unfold dropLineFeed
  split
  · next c rest reversed =>
    rw [reversed] at h
    exact if_neg (h c rfl)
  · rfl

/-- The text is a field name: a token, or a token and one line feed. -/
def isValid (t : Text) : Bool := isToken (dropLineFeed t)

/-- The first letter capital and the others small. -/
def capitalized : Text → Text
  | [] => []
  | c :: t => c.toAsciiUpper :: Text.lower t

/-- The form under which a field is stored: each part between hyphens capitalized, or, if it is
no field name at all, the whole in small letters. -/
def canonical (t : Text) : Text :=
  if isValid t then Text.join "-" ((Text.splitOn '-' t).map capitalized) else Text.lower t

@[simp] theorem isToken_nil : isToken [] = false := rfl

theorem isToken_append {s t : Text} (hs : isToken s) (ht : isToken t) : isToken (s ++ t) := by
  simp [isToken] at *
  exact ⟨fun h => absurd h hs.1, hs.2, ht.2⟩

end Mailroom.FieldName
