import Mailroom.Text.CodePoint

/-!
# Octets read piece by piece

In most character sets one octet is not one character. Some octets are read by looking at
what stands at their beginning, and then at what follows.

* `Piece`: what stands at the beginning of some octets, with how many octets it takes;
* `decodePieces?`: the text of some octets, given how a piece is read. Octets that stand for
  nothing are kept as lone surrogates; there is no text if the first of them is an ASCII octet.
* `readPair`: a piece of the character sets in which ASCII stands for itself, and a higher
  octet makes a character together with the octet after it.
-/

namespace Mailroom.Charset

/-- What stands at the beginning of some octets, with how many octets it takes after the first. -/
inductive Piece where
  | text (written : Text) (more : Nat)
  /-- Nothing that the character set knows. -/
  | bad (more : Nat)
deriving DecidableEq

/-- A single code point. -/
abbrev Piece.char (c : CodePoint) (more : Nat) : Piece := .text [c] more

/-- A text that stands there, or nothing known where there is none. -/
def Piece.ofText? (written? : Option Text) (more : Nat) : Piece :=
  match written? with
  | some written => .text written more
  | none => .bad 0

/-- The octets of a piece without a meaning that are kept with its first octet: those from
0x80 on, up to the first that is smaller, and at most three. -/
def kept (rest : Octets) (more : Nat) : Octets :=
  (rest.take (min more 3)).takeWhile fun b => decide (0x80 ≤ b.toNat)

/-- The text of some octets, where `read` says what stands at their beginning and in which
state the reading goes on. Behind octets that are kept it goes on in the same way. -/
def decodePieces? {State : Type} (read : State → UInt8 → Octets → Piece × State) :
    State → Octets → Option Text
  | _, [] => some []
  | state, a :: rest =>
    match read state a rest with
    | (.text written more, next) =>
      (decodePieces? read next (rest.drop more)).map (written ++ ·)
    | (.bad more, next) =>
      if a.toNat < 0x80 then none
      else
        (decodePieces? read next (rest.drop (kept rest more).length)).map
          ((a :: kept rest more).map CodePoint.ofOctet ++ ·)
termination_by _ octets => octets.length
decreasing_by all_goals simp only [List.length_drop, List.length_cons]; omega

/-- The text of some octets, where nothing but the octets says how they are read. -/
def decodeEach? (read : UInt8 → Octets → Piece) (octets : Octets) : Option Text :=
  decodePieces? (fun (_ : Unit) a rest => (read a rest, ())) () octets

/-- A piece in which ASCII stands for itself, and any other octet makes a text together
with the octet after it, which `table` tells. -/
def readPair (table : Nat → Nat → Option Text) (a : UInt8) (rest : Octets) : Piece :=
  if a.toNat < 0x80 then .char (CodePoint.ofNat a.toNat) 0
  else match rest with
    | [] => .bad 0
    | b :: _ => .ofText? (table a.toNat b.toNat) 1

@[simp] theorem decodePieces?_nil {State : Type} (read : State → UInt8 → Octets → Piece × State)
    (state : State) : decodePieces? read state [] = some [] := by
  rw [decodePieces?]

@[simp] theorem decodeEach?_nil (read : UInt8 → Octets → Piece) :
    decodeEach? read [] = some [] := by
  simp [decodeEach?]

/-- What a piece stands for comes before what follows it. -/
theorem decodeEach?_of_text {read : UInt8 → Octets → Piece} {a : UInt8} {rest : Octets}
    {written : Text} {more : Nat} (here : read a rest = .text written more) :
    decodeEach? read (a :: rest) = (decodeEach? read (rest.drop more)).map (written ++ ·) := by
  rw [decodeEach?, decodePieces?]
  simp [here, decodeEach?]

/-- ASCII stands for itself in a character set of pairs. -/
theorem decodeEach?_readPair_ascii (table : Nat → Nat → Option Text) {a : UInt8}
    (ascii : a.toNat < 0x80) (rest : Octets) :
    decodeEach? (readPair table) (a :: rest) =
      (decodeEach? (readPair table) rest).map (CodePoint.ofNat a.toNat :: ·) := by
  have here : readPair table a rest = .text [CodePoint.ofNat a.toNat] 0 := by
    simp [readPair, ascii]
  rw [decodeEach?_of_text here]
  simp

end Mailroom.Charset
