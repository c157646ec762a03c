import Mailroom.Base64

/-!
# Reading base64 back

* `Base64.codes`: the octets of the letters that stand for some octets;
* `Base64.decodeTolerant_codes`: these are read as what they stand for.
-/

namespace Mailroom.Base64

/-- The octet of the letter of a value. -/
def code (value : Nat) : UInt8 := UInt8.ofNat (letter value).val

/-- The octets of the letters that stand for some octets. -/
def codes (octets : Octets) : Octets := (encode octets).map fun c => UInt8.ofNat c.val

theorem value?_code {value : Nat} (h : value < 64) : value? (code value) = some value := by
  have all : ∀ value < 64, value? (code value) = some value := by decide +kernel
  exact all value h

theorem toNat_code_ne {value : Nat} (h : value < 64) : (code value).toNat ≠ 0x3D := by
  have all : ∀ value < 64, (code value).toNat ≠ 0x3D := by decide +kernel
  exact all value h

/-- A letter goes on with its group, as long as no padding has been seen. -/
theorem decodeFrom_code (strict : Bool) (letters pending pads : Nat) {value : Nat}
    (h : value < 64) (rest : Octets) :
    decodeFrom strict ⟨letters, pending, pads, false⟩ (code value :: rest) =
      match letters with
      | 0 => decodeFrom strict ⟨1, value, 0, false⟩ rest
      | 1 => (decodeFrom strict ⟨2, value % 16, 0, false⟩ rest).map
          (UInt8.ofNat (pending * 4 + value / 16) :: ·)
      | 2 => (decodeFrom strict ⟨3, value % 4, 0, false⟩ rest).map
          (UInt8.ofNat (pending * 16 + value / 4) :: ·)
      | _ => (decodeFrom strict ⟨0, 0, 0, false⟩ rest).map
          (UInt8.ofNat (pending * 64 + value) :: ·) := by
  rcases letters with _ | _ | _ | _ <;> simp [decodeFrom, toNat_code_ne h, value?_code h]

/-- Letters stand for what they were made from. -/
theorem decodeFrom_codes (octets : Octets) :
    decodeFrom true ⟨0, 0, 0, false⟩ (codes octets) = some octets := by
  have octet : ∀ (b : UInt8) {n : Nat}, n = b.toNat → UInt8.ofNat n = b := by
    intro b n e
    rw [e, UInt8.ofNat_toNat]
  have pad : (0x3D : UInt8).toNat = 0x3D := rfl
  -- three octets at a time; what two letters share of an octet adds up to it
  fun_induction encode octets with
  | case1 => rfl
  | case2 a x =>
    have hx : x < 256 := a.toNat_lt
    show decodeFrom true _ [code (x / 4), code (x % 4 * 16), 0x3D, 0x3D] = _
    simp (disch := omega) only [decodeFrom_code]
    have first := octet a (n := x / 4 * 4 + x % 4 * 16 / 16) (by omega)
    simp only [first, decodeFrom, pad]
    rfl
  | case3 a b x y =>
    have hx : x < 256 := a.toNat_lt
    have hy : y < 256 := b.toNat_lt
    show decodeFrom true _ [code (x / 4), code (x % 4 * 16 + y / 16), code (y % 16 * 4), 0x3D] = _
    simp (disch := omega) only [decodeFrom_code]
    have first := octet a (n := x / 4 * 4 + (x % 4 * 16 + y / 16) / 16) (by omega)
    have second := octet b (n := (x % 4 * 16 + y / 16) % 16 * 16 + y % 16 * 4 / 4) (by omega)
    simp only [first, second, decodeFrom, pad]
    rfl
  | case4 a b c rest x y z ih =>
    have hx : x < 256 := a.toNat_lt
    have hy : y < 256 := b.toNat_lt
    have hz : z < 256 := c.toNat_lt
    show decodeFrom true _ (code (x / 4) :: code (x % 4 * 16 + y / 16) ::
      code (y % 16 * 4 + z / 64) :: code (z % 64) :: codes rest) = _
    simp (disch := omega) only [decodeFrom_code]
    have first := octet a (n := x / 4 * 4 + (x % 4 * 16 + y / 16) / 16) (by omega)
    have second := octet b (n := (x % 4 * 16 + y / 16) % 16 * 16 + (y % 16 * 4 + z / 64) / 4)
      (by omega)
    have third := octet c (n := (y % 16 * 4 + z / 64) % 4 * 64 + z % 64) (by omega)
    simp only [ih, first, second, third, Option.map_some]

/-- Letters begin with one that is no padding. -/
theorem head?_codes (octets : Octets) : (codes octets).head? ≠ some 0x3D := by
  have pad : ∀ {value : Nat}, value < 64 → code value ≠ 0x3D := fun h e =>
    toNat_code_ne h (by rw [e]; rfl)
  cases octets with
  | nil => simp [codes]
  | cons a octets =>
    have first : (codes (a :: octets)).head? = some (code (a.toNat / 4)) := by
      rcases octets with _ | ⟨b, _ | ⟨c, rest⟩⟩ <;> rfl
    rw [first]
    have := a.toNat_lt
    exact fun e => pad (by omega) (Option.some.inj e)

/-- **Letters are read as what they stand for**, also by the tolerant reading. -/
theorem decodeTolerant_codes (octets : Octets) : decodeTolerant (codes octets) = octets := by
  have length : (codes octets).length % 4 = 0 := by
    rw [codes, List.length_map, length_encode, encodedLength]
    omega
  unfold decodeTolerant
  simp only [length, Nat.sub_zero, Nat.mod_self, List.replicate_zero, List.append_nil]
  rw [decode?, if_neg (by simpa using head?_codes octets), decodeFrom_codes]

end Mailroom.Base64
