/-!
# Code points and texts

Mail is bytes, and most of those bytes are text. A text here is a list of code
points, surrogates included: an octet that is no part of valid UTF-8 is held as
one of the 128 lone surrogates U+DC80 … U+DCFF and can be written back as it came.

* `CodePoint`: a number below 0x110000;
* `Text`: a list of code points; string literals are texts;
* `Octets`: a list of bytes;
* `CodePoint.ofOctet` / `CodePoint.octet?`: the octet held by a lone surrogate.
-/

namespace Mailroom

/-- A Unicode code point, surrogates included. -/
structure CodePoint where
  val : Nat
  isLt : val < 0x110000
deriving DecidableEq

/-- A piece of text. -/
abbrev Text := List CodePoint

/-- A run of bytes. -/
abbrev Octets := List UInt8

namespace CodePoint

/-- The code point of a character. -/
def ofChar (c : Char) : CodePoint :=
  ⟨c.toNat, by
    have h := c.valid
    unfold UInt32.isValidChar Nat.isValidChar at h
    unfold Char.toNat
    omega⟩

instance : Coe Char CodePoint := ⟨ofChar⟩
instance : Inhabited CodePoint := ⟨ofChar ' '⟩

/-- Code points are ordered by number. -/
instance : LT CodePoint := ⟨fun a b => a.val < b.val⟩
instance (a b : CodePoint) : Decidable (a < b) := inferInstanceAs (Decidable (a.val < b.val))

@[ext] theorem ext {a b : CodePoint} (h : a.val = b.val) : a = b := by
  cases a; cases b; simp_all

theorem val_beq_eq_false {a b : CodePoint} (h : a ≠ b) : (a.val == b.val) = false :=
  beq_eq_false_iff_ne.2 fun e => h (ext e)

/-- The code point with a given number, if there is one. -/
def ofNat? (n : Nat) : Option CodePoint :=
  if h : n < 0x110000 then some ⟨n, h⟩ else none

/-- The code point with a given number; numbers out of range give the replacement character. -/
def ofNat (n : Nat) : CodePoint :=
  if h : n < 0x110000 then ⟨n, h⟩ else ⟨0xFFFD, by decide⟩

/-- The number lies in a closed range. -/
def within (c : CodePoint) (low high : Nat) : Bool :=
  decide (low ≤ c.val) && decide (c.val ≤ high)

/-- The code point is one of the first 128. -/
def isAscii (c : CodePoint) : Bool := decide (c.val < 0x80)

/-- What is said of all ASCII code points can be decided, one after another. -/
instance decidableForallAscii (p : CodePoint → Prop) [DecidablePred p] :
    Decidable (∀ c : CodePoint, c.isAscii = true → p c) :=
  decidable_of_iff (∀ n : Fin 0x80, p ⟨n, by omega⟩)
    ⟨fun each c h => each ⟨c.val, of_decide_eq_true h⟩, fun all n => all _ (decide_eq_true n.isLt)⟩

/-- The code point is half of a surrogate pair, and so no character by itself. -/
def isSurrogate (c : CodePoint) : Bool := c.within 0xD800 0xDFFF

theorem isSurrogate_of_isAscii {c : CodePoint} (h : c.isAscii = true) : c.isSurrogate = false := by
  have : c.val < 0x80 := of_decide_eq_true h
  simp only [isSurrogate, within, Bool.and_eq_false_iff, decide_eq_false_iff_not]
  omega

/-- The ten ASCII digits. -/
def isAsciiDigit (c : CodePoint) : Bool := c.within 0x30 0x39

/-- The letters `a` to `z`. -/
def isAsciiLower (c : CodePoint) : Bool := c.within 0x61 0x7A

/-- The letters `A` to `Z`. -/
def isAsciiUpper (c : CodePoint) : Bool := c.within 0x41 0x5A

/-- The ASCII letters. -/
def isAsciiLetter (c : CodePoint) : Bool := c.isAsciiLower || c.isAsciiUpper

theorem isAscii_of_letter_or_digit {c : CodePoint}
    (h : c.isAsciiLetter = true ∨ c.isAsciiDigit = true) : c.isAscii = true := by
  simp only [isAsciiLetter, isAsciiLower, isAsciiUpper, isAsciiDigit, within, Bool.or_eq_true,
    Bool.and_eq_true, decide_eq_true_eq] at h
  exact decide_eq_true (by omega)

/-- The value of a hexadecimal digit in either case. -/
def hexValue? (c : CodePoint) : Option Nat :=
  if c.isAsciiDigit then some (c.val - 0x30)
  else if c.within 0x61 0x66 then some (c.val - 0x57)
  else if c.within 0x41 0x46 then some (c.val - 0x37)
  else none

/-- The lone surrogate that holds an octet which is not part of valid UTF-8. -/
def ofOctet (b : UInt8) : CodePoint := ofNat (0xDC00 + b.toNat)

/-- The octet held by a lone surrogate. Only octets from 0x80 on are ever held. -/
def octet? (c : CodePoint) : Option UInt8 :=
  if c.within 0xDC80 0xDCFF then some (UInt8.ofNat (c.val - 0xDC00)) else none

end CodePoint

namespace Text

/-- The text of a string literal. -/
def ofString (s : String) : Text := s.toList.map CodePoint.ofChar

instance : Coe String Text := ⟨ofString⟩

/-- Decimal notation of a number. -/
def ofNat (n : Nat) : Text := (Nat.toDigits 10 n).map CodePoint.ofChar

/-- Decimal notation of an integer. -/
def ofInt : Int → Text
  | .ofNat n => ofNat n
  | .negSucc n => CodePoint.ofChar '-' :: ofNat (n + 1)

/-- Every code point is below 128. -/
def isAscii (t : Text) : Bool := t.all CodePoint.isAscii

/-- The number written by hexadecimal digits, most significant first. -/
def hexNumber? (t : Text) : Option Nat :=
  t.foldl (fun n c => n.bind fun n => c.hexValue?.map (n * 16 + ·)) (some 0)

/-- Code point order, compared from the left; a proper beginning comes first. -/
def before : Text → Text → Bool
  | _, [] => false
  | [], _ :: _ => true
  | a :: s, b :: t => if a = b then before s t else decide (a.val < b.val)

@[simp] theorem ofString_empty : ofString "" = [] := rfl

theorem isAscii_cons {c : CodePoint} {t : Text} :
    isAscii (c :: t) = true ↔ c.isAscii = true ∧ isAscii t = true := by
  rw [isAscii, List.all_cons, Bool.and_eq_true]
  rfl

theorem isAscii_append {s t : Text} :
    isAscii (s ++ t) = true ↔ isAscii s = true ∧ isAscii t = true := by
  rw [isAscii, List.all_append, Bool.and_eq_true]
  rfl

theorem before_irrefl (t : Text) : before t t = false := by
  induction t with
  | nil => rfl
  | cons a t ih => simp [before, ih]

end Text

end Mailroom
