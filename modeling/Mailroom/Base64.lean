import Mailroom.Text.CodePoint

/-!
# Base64

* `Base64.encode`: three octets as four letters, the last group padded;
* `Base64.decode?`: the octets of some letters. The strict reading takes letters and a
  proper end only; the lenient one passes over everything that is not a letter.
-/

namespace Mailroom.Base64

/-- The sixty-four letters in order of value. -/
def alphabet : Text := "ABCDEFGHIJKLMNOPQRSTUVWXYZabcdefghijklmnopqrstuvwxyz0123456789+/"

/-- The letter of a value below 64. -/
def letter (value : Nat) : CodePoint := (alphabet[value]?).getD (CodePoint.ofChar '=')

/-- The value of a letter given by its octet. -/
def value? (b : UInt8) : Option Nat :=
  let n := b.toNat
  if 0x41 ≤ n && n ≤ 0x5A then some (n - 0x41)
  else if 0x61 ≤ n && n ≤ 0x7A then some (n - 0x61 + 26)
  else if 0x30 ≤ n && n ≤ 0x39 then some (n - 0x30 + 52)
  else if n == 0x2B then some 62
  else if n == 0x2F then some 63
  else none

/-- The letters of some octets. -/
def encode : Octets → Text
  | [] => []
  | [a] =>
    let x := a.toNat
    [letter (x / 4), letter (x % 4 * 16), CodePoint.ofChar '=', CodePoint.ofChar '=']
  | [a, b] =>
    let x := a.toNat
    let y := b.toNat
    [letter (x / 4), letter (x % 4 * 16 + y / 16), letter (y % 16 * 4), CodePoint.ofChar '=']
  | a :: b :: c :: rest =>
    let x := a.toNat
    let y := b.toNat
    let z := c.toNat
    letter (x / 4) :: letter (x % 4 * 16 + y / 16) :: letter (y % 16 * 4 + z / 64)
      :: letter (z % 64) :: encode rest

/-- The number of letters, padding included, for a number of octets. -/
def encodedLength (octets : Nat) : Nat := (octets + 2) / 3 * 4

/-- How far a group of four letters has come. -/
structure Group where
  letters : Nat
  pending : Nat
  pads : Nat
  padded : Bool

/-- The octets of the letters that follow a group which has begun. -/
def decodeFrom (strict : Bool) (g : Group) : Octets → Option Octets
  | [] => if g.letters = 0 then some [] else none
  | b :: rest =>
    if b.toNat = 0x3D then
      if 2 ≤ g.letters ∧ 4 ≤ g.letters + g.pads + 1 then
        if strict && !rest.isEmpty then none else some []
      else
        decodeFrom strict
          ⟨g.letters, g.pending, if 2 ≤ g.letters then g.pads + 1 else g.pads, true⟩ rest
    else match value? b with
      | none => if strict then none else decodeFrom strict g rest
      | some v =>
        if strict && g.padded then none
        else match g.letters with
          | 0 => decodeFrom strict ⟨1, v, 0, g.padded⟩ rest
          | 1 => (decodeFrom strict ⟨2, v % 16, 0, g.padded⟩ rest).map
              (UInt8.ofNat (g.pending * 4 + v / 16) :: ·)
          | 2 => (decodeFrom strict ⟨3, v % 4, 0, g.padded⟩ rest).map
              (UInt8.ofNat (g.pending * 16 + v / 4) :: ·)
          | _ => (decodeFrom strict ⟨0, 0, 0, g.padded⟩ rest).map
              (UInt8.ofNat (g.pending * 64 + v) :: ·)

/-- The octets of some letters; `none` if the last group is unfinished or, in the strict
reading, something is out of place. -/
def decode? (strict : Bool) (letters : Octets) : Option Octets :=
  if strict && letters.head? = some 0x3D then none
  else decodeFrom strict ⟨0, 0, 0, false⟩ letters

/-- The octets of letters that may lack their padding or hold foreign characters. What
cannot be read at all stands for itself. -/
def decodeTolerant (letters : Octets) : Octets :=
  let missing := List.replicate ((4 - letters.length % 4) % 4) (0x3D : UInt8)
  match decode? true (letters ++ missing) with
  | some octets => octets
  | none => match decode? false letters with
    | some octets => octets
    | none => (decode? false (letters ++ [0x3D, 0x3D])).getD letters

@[simp] theorem encode_nil : encode [] = [] := rfl

theorem length_encode (octets : Octets) : (encode octets).length = encodedLength octets.length := by
  fun_induction encode octets with
  | case1 => rfl
  | case2 => simp [encodedLength]
  | case3 => simp [encodedLength]
  | case4 a b c rest x y z ih =>
    simp [ih, encodedLength]
    omega

end Mailroom.Base64
