import Mailroom.Text.CodePoint

/-!
# UTF-8

The octets are cut into characters and ill-formed pieces, each as long as a beginning
of some well-formed sequence allows.

* `Utf8.pieces`: the cut;
* `Utf8.decode?`: the text, if all is well formed;
* `Utf8.decodeKeeping`: every ill-formed octet is kept as a lone surrogate;
* `Utf8.decodeReplacing`: every ill-formed piece becomes one replacement character;
* `Utf8.encode?`: the octets of a text; held octets go back to what they were.
-/

namespace Mailroom.Utf8

/-- A piece of decoded input. -/
inductive Piece where
  | char (c : CodePoint)
  | bad (octets : Octets)
deriving DecidableEq

/-- A sequence that has begun: the value so far, how many octets are still to come, the
range of the next one, and the octets taken. -/
structure Sequence where
  value : Nat
  missing : Nat
  low : Nat
  high : Nat
  taken : Octets

/-- What an octet does outside of a sequence. -/
def start (b : UInt8) : List Piece × Option Sequence :=
  let n := b.toNat
  if n < 0x80 then ([.char (CodePoint.ofNat n)], none)
  else if n < 0xC2 then ([.bad [b]], none)
  else if n < 0xE0 then ([], some ⟨n - 0xC0, 1, 0x80, 0xBF, [b]⟩)
  else if n == 0xE0 then ([], some ⟨0, 2, 0xA0, 0xBF, [b]⟩)
  else if n == 0xED then ([], some ⟨0xD, 2, 0x80, 0x9F, [b]⟩)
  else if n < 0xF0 then ([], some ⟨n - 0xE0, 2, 0x80, 0xBF, [b]⟩)
  else if n == 0xF0 then ([], some ⟨0, 3, 0x90, 0xBF, [b]⟩)
  else if n < 0xF4 then ([], some ⟨n - 0xF0, 3, 0x80, 0xBF, [b]⟩)
  else if n == 0xF4 then ([], some ⟨4, 3, 0x80, 0x8F, [b]⟩)
  else ([.bad [b]], none)

/-- What an octet does inside of a sequence: it continues or ends it, or breaks it off and
is looked at anew. -/
def Sequence.step (s : Sequence) (b : UInt8) : List Piece × Option Sequence :=
  let n := b.toNat
  if s.low ≤ n && n ≤ s.high then
    let value := s.value * 0x40 + (n - 0x80)
    if s.missing ≤ 1 then ([.char (CodePoint.ofNat value)], none)
    else ([], some ⟨value, s.missing - 1, 0x80, 0xBF, s.taken ++ [b]⟩)
  else
    let (pieces, next) := start b
    (.bad s.taken :: pieces, next)

/-- The pieces of the octets that follow a sequence which may have begun. -/
def piecesAfter : Option Sequence → Octets → List Piece
  | none, [] => []
  | some s, [] => [.bad s.taken]
  | none, b :: rest => let (pieces, next) := start b; pieces ++ piecesAfter next rest
  | some s, b :: rest => let (pieces, next) := s.step b; pieces ++ piecesAfter next rest

/-- The characters and ill-formed pieces of some octets, in order. -/
def pieces (octets : Octets) : List Piece := piecesAfter none octets

/-- The text, if all is well formed. -/
def decode? (octets : Octets) : Option Text :=
  (pieces octets).mapM fun
    | .char c => some c
    | .bad _ => none

/-- The text in which every ill-formed octet is kept as a lone surrogate. -/
def decodeKeeping (octets : Octets) : Text :=
  (pieces octets).flatMap fun
    | .char c => [c]
    | .bad bs => bs.map CodePoint.ofOctet

/-- The text in which every ill-formed piece is one replacement character. -/
def decodeReplacing (octets : Octets) : Text :=
  (pieces octets).map fun
    | .char c => c
    | .bad _ => CodePoint.ofNat 0xFFFD

/-- The octets of a code point by the general scheme, surrogates included. -/
def encodeNat (n : Nat) : Octets :=
  if n < 0x80 then [UInt8.ofNat n]
  else if n < 0x800 then [UInt8.ofNat (0xC0 + n / 0x40), UInt8.ofNat (0x80 + n % 0x40)]
  else if n < 0x10000 then
    [UInt8.ofNat (0xE0 + n / 0x1000), UInt8.ofNat (0x80 + n / 0x40 % 0x40),
      UInt8.ofNat (0x80 + n % 0x40)]
  else
    [UInt8.ofNat (0xF0 + n / 0x40000), UInt8.ofNat (0x80 + n / 0x1000 % 0x40),
      UInt8.ofNat (0x80 + n / 0x40 % 0x40), UInt8.ofNat (0x80 + n % 0x40)]

/-- The octets of one code point: a held octet is itself, and no other surrogate has any. -/
def encodeOne? (c : CodePoint) : Option Octets :=
  match c.octet? with
  | some b => some [b]
  | none => if c.isSurrogate then none else some (encodeNat c.val)

/-- The octets of a text, unless it has a surrogate that holds no octet. -/
def encode? (t : Text) : Option Octets :=
  (t.mapM encodeOne?).map List.flatten

/-- The octets of a text without any surrogates. -/
def encodeStrict? (t : Text) : Option Octets :=
  if t.any CodePoint.isSurrogate then none else some (t.flatMap fun c => encodeNat c.val)

/-- The octets of a text of which surrogates are left out. -/
def encodeDropping (t : Text) : Octets :=
  (t.filter fun c => !c.isSurrogate).flatMap fun c => encodeNat c.val

@[simp] theorem pieces_nil : pieces [] = [] := rfl

theorem pieces_cons_ascii {b : UInt8} {rest : Octets} (h : b.toNat < 0x80) :
    pieces (b :: rest) = .char (CodePoint.ofNat b.toNat) :: pieces rest := by
  simp [pieces, piecesAfter, start, h]

end Mailroom.Utf8
