import Mailroom.Base64

/-!
# UTF-7

ASCII characters stand for themselves, except for the plus sign: it opens a run of base64
letters, which hold sixteen bits for each code point or half of a surrogate pair. The first
octet that is no such letter closes the run, and is left out if it is a hyphen.

* `Shifted.State`, `Shifted.step`: where the reading is, and what one octet does;
* `Shifted.run`: what the octets after that do;
* `Shifted.decode?`: the text of some octets, if every run is well formed.
-/

namespace Mailroom.Shifted

/-- The bits of a run that are not yet a code point: how many, the number they make, and the
first half of a surrogate pair before them. -/
structure Pending where
  bits : Nat
  number : Nat
  half : Option Nat
deriving DecidableEq

/-- Where the reading is. -/
inductive State where
  | plain
  /-- Right behind a plus sign. -/
  | opened
  | shifted (p : Pending)
deriving DecidableEq

/-- A half that found no second half stands alone. -/
def lone (half : Option Nat) : Text := (half.map CodePoint.ofNat).toList

/-- What sixteen bits add to a text, given the half before them. -/
def complete (half : Option Nat) (unit : Nat) : Option Nat × Text :=
  match half with
  | some high =>
    if 0xDC00 ≤ unit ∧ unit < 0xE000 then
      (none, [CodePoint.ofNat (0x10000 + (high - 0xD800) * 0x400 + (unit - 0xDC00))])
    else if 0xD800 ≤ unit ∧ unit < 0xDC00 then (some unit, lone half)
    else (none, lone half ++ [CodePoint.ofNat unit])
  | none =>
    if 0xD800 ≤ unit ∧ unit < 0xDC00 then (some unit, []) else (none, [CodePoint.ofNat unit])

/-- What the six bits of a letter do. -/
def push (p : Pending) (value : Nat) : State × Text :=
  let number := p.number * 0x40 + value
  let bits := p.bits + 6
  if 16 ≤ bits then
    let (half, text) := complete p.half (number / Nat.pow 2 (bits - 16))
    (.shifted ⟨bits - 16, number % Nat.pow 2 (bits - 16), half⟩, text)
  else (.shifted ⟨bits, number, p.half⟩, [])

/-- The bits left over at the end of a run: too few for a letter, and all zero. -/
def Pending.isPadding (p : Pending) : Bool := decide (p.bits < 6) && decide (p.number = 0)

/-- What an octet does outside of a run. One from 0x80 on is kept as a lone surrogate. -/
def stepPlain (b : UInt8) : State × Text :=
  if b.toNat = 0x2B then (.opened, [])
  else if b.toNat < 0x80 then (.plain, [CodePoint.ofNat b.toNat])
  else (.plain, [CodePoint.ofOctet b])

/-- What one octet does, unless it breaks off a run. -/
def step : State → UInt8 → Option (State × Text)
  | .plain, b => some (stepPlain b)
  | .opened, b =>
    if b.toNat = 0x2D then some (.plain, [CodePoint.ofChar '+'])
    else (Base64.value? b).map (push ⟨0, 0, none⟩)
  | .shifted p, b =>
    match Base64.value? b with
    | some value => some (push p value)
    | none =>
      if p.isPadding then
        let before := if b.toNat < 0x80 then lone p.half else []
        let (state, text) := if b.toNat = 0x2D then (.plain, []) else stepPlain b
        some (state, before ++ text)
      else none

/-- The text may end here. -/
def State.isFinal : State → Bool
  | .plain | .opened => true
  | .shifted p => p.half.isNone && p.isPadding

/-- The text of the octets that follow. -/
def run : State → Octets → Option Text
  | state, [] => if state.isFinal then some [] else none
  | state, b :: rest =>
    match step state b with
    | some (next, text) => (run next rest).map (text ++ ·)
    | none => none

/-- The text of some octets. -/
def decode? (octets : Octets) : Option Text := run .plain octets

@[simp] theorem run_plain_nil : run .plain [] = some [] := rfl

/-- An ASCII character other than the plus sign stands for itself. -/
theorem run_plain_cons {b : UInt8} (ascii : b.toNat < 0x80) (plus : b.toNat ≠ 0x2B)
    (rest : Octets) :
    run .plain (b :: rest) = (run .plain rest).map (CodePoint.ofNat b.toNat :: ·) := by
  simp [run, step, stepPlain, ascii, plus]

end Mailroom.Shifted
