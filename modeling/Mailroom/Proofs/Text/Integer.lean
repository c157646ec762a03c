import Mailroom.Proofs.Text.Margin
import Mailroom.Proofs.Text.Trim
import Mailroom.Text.Integer

/-!
# What integers look like

An integer is typed as decimal digits of any script, which may have single low lines between them,
with a sign in front of them or none, and with blanks around the whole.

* `Text.IsNumeral`, `Text.IsSigned`, `Text.IsInteger`: numerals, with a sign, and between blanks;
* `Text.toInt?_eq_some_iff`: the integers that are read are those;
* `Text.isNumeral_ofNat`, `Text.toInt?_ofNat`: decimal notation is read back.
-/

namespace Mailroom.Text

/-! ### Numerals -/

/-- Digits, perhaps with single low lines between them, and their values. -/
inductive HasDigits : Text → List Nat → Prop
  | last {c : CodePoint} {d : Nat} (digit : c.digitValue? = some d) : HasDigits [c] [d]
  | next {c : CodePoint} {d : Nat} {t : Text} {ds : List Nat} (digit : c.digitValue? = some d)
      (rest : HasDigits t ds) : HasDigits (c :: t) (d :: ds)
  | spaced {c : CodePoint} {d : Nat} {t : Text} {ds : List Nat} (digit : c.digitValue? = some d)
      (rest : HasDigits t ds) : HasDigits (c :: CodePoint.ofChar '_' :: t) (d :: ds)

/-- The number that digits stand for, the first being worth most. -/
def valueOfDigits (ds : List Nat) : Nat := ds.foldl (fun n d => n * 10 + d) 0

/-- A numeral for a number. It has no more than 4300 digits. -/
def IsNumeral (t : Text) (n : Nat) : Prop :=
  ∃ ds, HasDigits t ds ∧ ds.length ≤ 4300 ∧ n = valueOfDigits ds

/-- A numeral, perhaps with a sign in front. -/
inductive IsSigned : Text → Int → Prop
  | bare {t : Text} {n : Nat} (numeral : IsNumeral t n) : IsSigned t n
  | plus {t : Text} {n : Nat} (numeral : IsNumeral t n) : IsSigned (CodePoint.ofChar '+' :: t) n
  | minus {t : Text} {n : Nat} (numeral : IsNumeral t n) :
      IsSigned (CodePoint.ofChar '-' :: t) (-(n : Int))

/-- An integer as it is typed, between blanks. -/
def IsInteger (t : Text) (n : Int) : Prop :=
  ∃ l s r : Text, t = l ++ s ++ r ∧ IsSigned s n ∧ (∀ c ∈ l, isNumberBlank c = true) ∧
    ∀ c ∈ r, isNumberBlank c = true

theorem eq_lowLine_iff {c : CodePoint} : (c.val == 0x5F) = true ↔ c = CodePoint.ofChar '_' := by
  rw [beq_iff_eq, CodePoint.ext_iff]
  rfl

theorem digitValue?_lowLine : (CodePoint.ofChar '_').digitValue? = none := by decide

/-- A numeral goes on with another digit, or ends; behind a digit it may also go on with a low line
in front of one. -/
theorem digitsFrom_eq_some_iff {t : Text} (afterDigit : Bool) {value count n k : Nat} :
    digitsFrom afterDigit value count t = some (n, k) ↔
      (afterDigit = true ∧ t = [] ∧ n = value ∧ k = count) ∨
      ∃ ds, (HasDigits t ds ∨
          afterDigit = true ∧ ∃ u, t = CodePoint.ofChar '_' :: u ∧ HasDigits u ds) ∧
        n = ds.foldl (fun n d => n * 10 + d) value ∧ k = count + ds.length := by
  induction t generalizing afterDigit value count with
  | nil =>
    constructor
    · intro h
      cases afterDigit with
      | false => simp [digitsFrom] at h
      | true => simp_all [digitsFrom]
    · rintro (⟨rfl, -, rfl, rfl⟩ | ⟨ds, ⟨⟨⟩⟩ | ⟨-, u, ⟨⟩, -⟩, -⟩)
      rfl
  | cons c t ih =>
    rw [digitsFrom]
    cases digit : c.digitValue? with
    | some d =>
      simp only [ih]
      constructor
      · rintro (⟨-, rfl, rfl, rfl⟩ | ⟨ds, rest | ⟨-, u, rfl, rest⟩, rfl, rfl⟩)
        · exact .inr ⟨[d], .inl (.last digit), rfl, rfl⟩
        · exact .inr ⟨d :: ds, .inl (.next digit rest), rfl, by simp; omega⟩
        · exact .inr ⟨d :: ds, .inl (.spaced digit rest), rfl, by simp; omega⟩
      · rintro (⟨-, ⟨⟩, -⟩ | ⟨ds, h | ⟨-, u, same, -⟩, rfl, rfl⟩)
        · cases h with
          | last digit' =>
            cases digit.symm.trans digit'
            exact .inl ⟨trivial, rfl, rfl, rfl⟩
          | next digit' rest =>
            cases digit.symm.trans digit'
            exact .inr ⟨_, .inl rest, rfl, by simp; omega⟩
          | spaced digit' rest =>
            cases digit.symm.trans digit'
            exact .inr ⟨_, .inr ⟨trivial, _, rfl, rest⟩, rfl, by simp; omega⟩
        · -- a low line is no digit
          rw [(List.cons.inj same).1, digitValue?_lowLine] at digit
          cases digit
    | none =>
      have undigit (ds : List Nat) : ¬ HasDigits (c :: t) ds := by
        rintro (digit' | ⟨digit', -⟩ | ⟨digit', -⟩) <;> cases digit.symm.trans digit'
      by_cases low : afterDigit = true ∧ c = CodePoint.ofChar '_'
      · obtain ⟨rfl, rfl⟩ := low
        rw [if_pos (by decide)]
        simp only [ih, Bool.false_eq_true, false_and, or_false, false_or, undigit, true_and,
          List.cons.injEq, exists_eq_left']
        simp
      · have stops : ¬ (afterDigit && c.val == 0x5F) = true := by
          rw [Bool.and_eq_true, eq_lowLine_iff]
          exact low
        rw [if_neg stops]
        constructor
        · nofun
        · rintro (⟨-, ⟨⟩, -⟩ | ⟨ds, h | ⟨after, u, same, -⟩, -⟩)
          · exact absurd h (undigit ds)
          · exact absurd ⟨after, (List.cons.inj same).1⟩ low

/-- **The numerals** are what is read as a number. -/
theorem toNat?_eq_some_iff {t : Text} {n : Nat} : toNat? t = some n ↔ IsNumeral t n := by
  unfold toNat? IsNumeral
  constructor
  · intro h
    split at h
    · next value count read =>
      obtain ⟨⟨⟩, -⟩ | ⟨ds, digits | ⟨⟨⟩, -⟩, rfl, rfl⟩ := (digitsFrom_eq_some_iff false).1 read
      by_cases few : 0 + ds.length ≤ 4300
      · rw [if_pos few] at h
        cases h
        exact ⟨ds, digits, by omega, rfl⟩
      · rw [if_neg few] at h
        cases h
    · cases h
  · rintro ⟨ds, digits, few, rfl⟩
    have read : digitsFrom false 0 0 t = some (valueOfDigits ds, 0 + ds.length) :=
      (digitsFrom_eq_some_iff false).2 (.inr ⟨ds, .inl digits, rfl, rfl⟩)
    rw [read]
    exact if_pos (by omega)

/-! ### Integers -/

theorem isNumberBlank_eq_false_of_digit {c : CodePoint} {d : Nat} (digit : c.digitValue? = some d) :
    isNumberBlank c = false := by
  have none : ∀ n ∈ CodePoint.blankNumbers, ∀ h : n < 0x110000,
      CodePoint.digitValue? ⟨n, h⟩ = none := by
    decide +kernel
  rw [isNumberBlank, Bool.and_eq_false_iff]
  refine .inl (Bool.eq_false_iff.2 fun blank => ?_)
  cases (none c.val (CodePoint.val_mem_of_isBlank blank) c.isLt).symm.trans digit

/-- A numeral begins and ends with a digit. -/
theorem HasDigits.ends {t : Text} {ds : List Nat} (h : HasDigits t ds) :
    (∃ c u d, t = c :: u ∧ c.digitValue? = some d) ∧ t.EndsOutside isNumberBlank := by
  induction h with
  | last digit =>
    refine ⟨⟨_, _, _, rfl, digit⟩, endsOutside_of_forall ?_⟩
    simpa using isNumberBlank_eq_false_of_digit digit
  | next digit rest ih =>
    obtain ⟨⟨c, u, d, rfl, -⟩, ends⟩ := ih
    refine ⟨⟨_, _, _, rfl, digit⟩, ?_, fun e he => ends.last e (by simpa using he)⟩
    simpa using isNumberBlank_eq_false_of_digit digit
  | spaced digit rest ih =>
    obtain ⟨⟨c, u, d, rfl, -⟩, ends⟩ := ih
    refine ⟨⟨_, _, _, rfl, digit⟩, ?_, fun e he => ends.last e (by simpa using he)⟩
    simpa using isNumberBlank_eq_false_of_digit digit

/-- A text with something in front that is no blank has no blanks at its ends either. -/
theorem EndsOutside.cons {p : CodePoint → Bool} {c : CodePoint} {t : Text} (outside : p c = false)
    (ends : t.EndsOutside p) : EndsOutside p (c :: t) where
  head := by simpa using outside
  last := by
    cases t with
    | nil => simpa using outside
    | cons d t => exact fun e he => ends.last e (by simpa using he)

theorem IsSigned.endsOutside {t : Text} {n : Int} (h : IsSigned t n) :
    t.EndsOutside isNumberBlank := by
  cases h with
  | bare numeral =>
    obtain ⟨ds, digits, -⟩ := numeral
    exact digits.ends.2
  | plus numeral =>
    obtain ⟨ds, digits, -⟩ := numeral
    exact digits.ends.2.cons (by decide)
  | minus numeral =>
    obtain ⟨ds, digits, -⟩ := numeral
    exact digits.ends.2.cons (by decide)

/-- No numeral begins with a sign. -/
theorem not_isNumeral_of_sign {c : CodePoint} (sign : c.digitValue? = none) (u : Text) (n : Nat) :
    ¬ IsNumeral (c :: u) n := by
  rintro ⟨ds, digits, -⟩
  obtain ⟨d, v, _, same, digit⟩ := digits.ends.1
  rw [(List.cons.inj same).1] at sign
  cases sign.symm.trans digit

/-- What is left between the blanks is a numeral, perhaps with a sign. -/
theorem toInt?_eq_some_iff_isSigned {t : Text} {n : Int} :
    toInt? t = some n ↔ IsSigned (trimWhere isNumberBlank t) n := by
  unfold toInt?
  cases trimWhere isNumberBlank t with
  | nil =>
    refine ⟨nofun, fun h => ?_⟩
    cases h with
    | bare numeral =>
      obtain ⟨ds, ⟨⟩, -⟩ := numeral
  | cons c u =>
    dsimp only
    by_cases minus : c = CodePoint.ofChar '-'
    · subst minus
      rw [if_pos (by decide), Option.map_eq_some_iff]
      simp only [bind, pure, Option.bind_eq_some_iff, Option.some.injEq]
      constructor
      · rintro ⟨_, ⟨m, read, rfl⟩, rfl⟩
        exact .minus (toNat?_eq_some_iff.1 read)
      · intro h
        cases h with
        | bare numeral => exact absurd numeral (not_isNumeral_of_sign (by decide) u _)
        | minus numeral => exact ⟨_, ⟨_, toNat?_eq_some_iff.2 numeral, rfl⟩, rfl⟩
    rw [if_neg (by rw [beq_iff_eq]; exact fun h => minus (CodePoint.ext h))]
    by_cases plus : c = CodePoint.ofChar '+'
    · subst plus
      rw [if_pos (by decide), Option.map_eq_some_iff]
      constructor
      · rintro ⟨m, read, rfl⟩
        exact .plus (toNat?_eq_some_iff.1 read)
      · intro h
        cases h with
        | bare numeral => exact absurd numeral (not_isNumeral_of_sign (by decide) u _)
        | plus numeral => exact ⟨_, toNat?_eq_some_iff.2 numeral, rfl⟩
    rw [if_neg (by rw [beq_iff_eq]; exact fun h => plus (CodePoint.ext h)), Option.map_eq_some_iff]
    constructor
    · rintro ⟨m, read, rfl⟩
      exact .bare (toNat?_eq_some_iff.1 read)
    · intro h
      cases h with
      | bare numeral => exact ⟨_, toNat?_eq_some_iff.2 numeral, rfl⟩
      | plus => exact absurd rfl plus
      | minus => exact absurd rfl minus

/-- **The integers that are read** are the numerals with a sign or none, between blanks. -/
theorem toInt?_eq_some_iff {t : Text} {n : Int} : toInt? t = some n ↔ IsInteger t n := by
  rw [toInt?_eq_some_iff_isSigned]
  constructor
  · intro signed
    obtain ⟨l, r, whole, left, right, -⟩ := exists_trimWhere isNumberBlank t
    exact ⟨l, _, r, whole, signed, left, right⟩
  · rintro ⟨l, s, r, rfl, signed, left, right⟩
    rwa [trimWhere_append left signed.endsOutside right]

theorem IsInteger.unique {t : Text} {m n : Int} (h : IsInteger t m) (h' : IsInteger t n) :
    m = n :=
  Option.some.inj ((toInt?_eq_some_iff.2 h).symm.trans (toInt?_eq_some_iff.2 h'))

/-! ### Decimal notation -/

theorem isAsciiDigit_ofChar {c : Char} (digit : c.isDigit = true) :
    (CodePoint.ofChar c).isAsciiDigit = true := by
  obtain ⟨low, high⟩ := Char.isDigit_iff_toNat.1 digit
  exact Bool.and_eq_true_iff.2 ⟨decide_eq_true low, decide_eq_true high⟩

theorem digitValue?_ofChar {c : Char} (digit : c.isDigit = true) :
    (CodePoint.ofChar c).digitValue? = some (c.toNat - '0'.toNat) := by
  have decimal : (CodePoint.ofChar c).isAsciiDigit = true := isAsciiDigit_ofChar digit
  have upper : c.toNat ≤ 57 := (Char.isDigit_iff_toNat.1 digit).2
  have ascii : (CodePoint.ofChar c).isAscii = true := decide_eq_true (by show c.toNat < 0x80; omega)
  rw [CodePoint.digitValue?, if_pos ascii, if_pos decimal]
  rfl

theorem hasDigits_map_ofChar {cs : List Char} (nonempty : cs ≠ [])
    (digits : ∀ c ∈ cs, c.isDigit = true) :
    HasDigits (cs.map CodePoint.ofChar) (cs.map fun c => c.toNat - '0'.toNat) := by
  induction cs with
  | nil => exact absurd rfl nonempty
  | cons c cs ih =>
    rw [List.forall_mem_cons] at digits
    cases cs with
    | nil => exact .last (digitValue?_ofChar digits.1)
    | cons d cs => exact .next (digitValue?_ofChar digits.1) (ih (by simp) digits.2)

/-- **Decimal notation** is a numeral for its number, if it has no more than 4300 digits. -/
theorem isNumeral_ofNat {n : Nat} (few : (ofNat n).length ≤ 4300) : IsNumeral (ofNat n) n := by
  refine ⟨_, hasDigits_map_ofChar Nat.toDigits_ne_nil fun c hc =>
    Nat.isDigit_of_mem_toDigits (by omega) (by omega) hc, by simpa [ofNat] using few, ?_⟩
  rw [valueOfDigits, List.foldl_map]
  conv_lhs => rw [← Nat.ofDigitChars_ten_toDigits (n := n), Nat.ofDigitChars_eq_foldl]
  simp only [Nat.mul_comm]

theorem toInt?_ofNat {n : Nat} (few : (ofNat n).length ≤ 4300) :
    toInt? (ofNat n) = some (n : Int) :=
  toInt?_eq_some_iff.2 ⟨[], _, [], by simp, .bare (isNumeral_ofNat few), nofun, nofun⟩

theorem isAsciiDigit_of_mem_ofNat {n : Nat} {c : CodePoint} (h : c ∈ ofNat n) :
    c.isAsciiDigit = true := by
  obtain ⟨d, hd, rfl⟩ := List.mem_map.1 h
  exact isAsciiDigit_ofChar (Nat.isDigit_of_mem_toDigits (by omega) (by omega) hd)

end Mailroom.Text
