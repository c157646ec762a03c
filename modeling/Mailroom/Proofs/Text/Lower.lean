import Mailroom.Proofs.Text.Case

/-!
# Small letters stay small

* `CodePoint.toLower_toLower`: a small letter is its own small letter, as no run of capital letters
  begins where another ends up;
* `Text.lower_lower`: a text in small letters stays as it is;
* `Text.mem_of_mem_lower`: no surrogate is a small letter;
* `Text.isAscii_or_eq_kelvinSign`: beside ASCII letters, only the Kelvin sign becomes one.
-/

namespace Mailroom

namespace CodePoint

/-- The sign for degrees Kelvin, the one letter from 0x80 on whose small letter is an ASCII
letter. -/
def kelvinSign : CodePoint := ⟨0x212A, by decide⟩

/-- The small letters of one run are no capital letters of another: they lie before or after those,
or between them. -/
def CapitalRun.isApartFrom (r s : CapitalRun) : Bool :=
  Nat.blt (r.small + (r.last - r.first)) s.first || Nat.blt s.last r.small ||
    (s.step == 2 && (r.step == 2 || r.first == r.last) && (r.small + s.first) % 2 == 1)

/-- What it takes for a run to assign a number to another. -/
theorem CapitalRun.lower?_eq_some_iff {run : CapitalRun} {n m : Nat} :
    run.lower? n = some m ↔ (run.first ≤ n ∧ n ≤ run.last ∧ (n - run.first) % run.step = 0) ∧
      m = run.small + (n - run.first) := by
  unfold lower?
  split
  · next inside =>
    simp only [Bool.and_eq_true, decide_eq_true_eq, beq_iff_eq] at inside
    rw [Option.some.injEq, eq_comm]
    exact ⟨fun h => ⟨⟨inside.1.1, inside.1.2, inside.2⟩, h⟩, fun h => h.2⟩
  · next outside =>
    simp only [Bool.and_eq_true, decide_eq_true_eq, beq_iff_eq] at outside
    exact ⟨fun h => (by cases h), fun ⟨⟨first, last, step⟩, _⟩ =>
      absurd ⟨⟨first, last⟩, step⟩ outside⟩

theorem CapitalRun.lower?_eq_none_of_isApartFrom {r s : CapitalRun} (apart : r.isApartFrom s = true)
    {n m : Nat} (h : r.lower? n = some m) : s.lower? m = none := by
  obtain ⟨⟨first, last, step⟩, rfl⟩ := lower?_eq_some_iff.1 h
  refine Option.eq_none_iff_forall_ne_some.2 fun k hk => ?_
  obtain ⟨⟨first', last', step'⟩, -⟩ := lower?_eq_some_iff.1 hk
  simp only [isApartFrom, Bool.or_eq_true, Bool.and_eq_true, Nat.blt_eq, beq_iff_eq] at apart
  rcases apart with (before | after) | ⟨⟨two, between⟩, odd⟩
  · omega
  · omega
  · rw [two] at step'
    rcases between with two' | single
    · rw [two'] at step
      omega
    · omega

theorem isApartFrom_capitalRuns {r s : CapitalRun} (hr : r ∈ capitalRuns) (hs : s ∈ capitalRuns) :
    r.isApartFrom s = true := by
  have all : (capitalRuns.all fun r => capitalRuns.all r.isApartFrom) = true := by decide +kernel
  exact List.all_eq_true.1 (List.all_eq_true.1 all r hr) s hs

/-- The dotted capital I is no small letter either. -/
theorem isApartFrom_dotted :
    ∀ r ∈ capitalRuns, r.isApartFrom ⟨0x130, 0x130, 1, 0x69⟩ = true := by
  decide +kernel

theorem eq_kelvinSign_of_small_lt :
    ∀ run ∈ capitalRuns, run.small < 0x80 → run.first = 0x212A ∧ run.last = 0x212A := by
  decide +kernel

/-- A code point is its own small letter, or an ASCII capital, the dotted I, or in a run. -/
theorem toLower_eq_cases (c : CodePoint) :
    c.toLower = c ∨ (c.isAsciiUpper = true ∧ c.toLower = ofNat (c.val + 0x20)) ∨
      (c.val = 0x130 ∧ c.toLower = ofChar 'i') ∨
      ∃ run ∈ capitalRuns, ∃ m, run.lower? c.val = some m ∧ c.toLower = ofNat m := by
  unfold toLower
  split
  · split
    · next upper => exact .inr (.inl ⟨upper, rfl⟩)
    · exact .inl rfl
  · split
    · next dotted => exact .inr (.inr (.inl ⟨beq_iff_eq.1 dotted, rfl⟩))
    · split
      · next m found =>
        obtain ⟨run, hrun, hlower⟩ := List.exists_of_findSome?_eq_some found
        exact .inr (.inr (.inr ⟨run, hrun, m, hlower, rfl⟩))
      · exact .inl rfl

/-- A number that a run assigns is the number of a small letter. -/
theorem toLower_ofNat_of_lower? {run : CapitalRun} (hrun : run ∈ capitalRuns) {n m : Nat}
    (h : run.lower? n = some m) : (ofNat m).toLower = ofNat m := by
  have letter : 0x61 ≤ m :=
    Nat.le_trans (small_of_mem_capitalRuns run hrun) (small_le_lower? h)
  have undotted : m ≠ 0x130 := by
    have := CapitalRun.lower?_eq_none_of_isApartFrom (isApartFrom_dotted run hrun) h
    rintro rfl
    revert this
    decide
  have none : capitalRuns.findSome? (·.lower? m) = none :=
    List.findSome?_eq_none_iff.2 fun s hs =>
      CapitalRun.lower?_eq_none_of_isApartFrom (isApartFrom_capitalRuns hrun hs) h
  unfold ofNat
  split
  · unfold toLower
    split
    · rw [if_neg]
      simp only [isAsciiUpper, within, Bool.and_eq_true, decide_eq_true_eq]
      omega
    · rw [if_neg (by simpa using undotted), none]
  · decide +kernel

/-- **A small letter is its own small letter.** -/
theorem toLower_toLower (c : CodePoint) : c.toLower.toLower = c.toLower := by
  rcases c.toLower_eq_cases with same | ⟨upper, small⟩ | ⟨-, small⟩ | ⟨run, hrun, m, hm, small⟩
  · rw [same, same]
  · simp only [isAsciiUpper, within, Bool.and_eq_true, decide_eq_true_eq] at upper
    rw [small, ofNat, dif_pos (by omega), toLower, if_pos, if_neg]
    · simp only [isAsciiUpper, within, Bool.and_eq_true, decide_eq_true_eq]
      omega
    · exact decide_eq_true (show c.val + 0x20 < 0x80 by omega)
  · rw [small]
    decide
  · rw [small, toLower_ofNat_of_lower? hrun hm]

/-- What becomes an ASCII letter is one, or the dotted capital I, or the Kelvin sign. -/
theorem isAscii_of_isAscii_toLower {c : CodePoint} (h : c.toLower.isAscii = true) :
    c.isAscii = true ∨ c.val = 0x130 ∨ c = kelvinSign := by
  rcases c.toLower_eq_cases with same | ⟨upper, -⟩ | ⟨dotted, -⟩ | ⟨run, hrun, m, hm, small⟩
  · rw [same] at h
    exact .inl h
  · simp only [isAsciiUpper, within, Bool.and_eq_true, decide_eq_true_eq] at upper
    exact .inl (decide_eq_true (by omega))
  · exact .inr (.inl dotted)
  · have hsmall := small_le_lower? hm
    have ascii : m < 0x80 := by
      rw [small] at h
      unfold ofNat at h
      split at h
      · exact of_decide_eq_true h
      · exact absurd h (by decide)
    obtain ⟨⟨first, last, -⟩, -⟩ := CapitalRun.lower?_eq_some_iff.1 hm
    obtain ⟨hfirst, hlast⟩ := eq_kelvinSign_of_small_lt run hrun (by omega)
    exact .inr (.inr (CodePoint.ext (by show c.val = 0x212A; omega)))

/-- No surrogate is a small letter. -/
theorem plain_of_mem_capitalRuns : ∀ run ∈ capitalRuns,
    run.small + (run.last - run.first) < 0xD800 ∨ 0xDFFF < run.small := by
  decide +kernel

theorem isSurrogate_ofNat {n : Nat} (h : ¬ (0xD800 ≤ n ∧ n ≤ 0xDFFF)) :
    (ofNat n).isSurrogate = false := by
  unfold ofNat
  split
  · simpa [isSurrogate, within] using h
  · decide

/-- What becomes a surrogate in small letters is that surrogate. -/
theorem toLower_eq_of_isSurrogate {c : CodePoint} (h : c.toLower.isSurrogate = true) :
    c.toLower = c := by
  have absurd_of {n : Nat} (small : c.toLower = ofNat n) (plain : ¬ (0xD800 ≤ n ∧ n ≤ 0xDFFF)) :
      c.toLower = c := by
    rw [small, isSurrogate_ofNat plain] at h
    cases h
  rcases c.toLower_eq_cases with same | ⟨upper, small⟩ | ⟨-, small⟩ | ⟨run, hrun, m, hm, small⟩
  · exact same
  · simp only [isAsciiUpper, within, Bool.and_eq_true, decide_eq_true_eq] at upper
    exact absurd_of small (by omega)
  · exact absurd_of (n := 0x69) small (by decide)
  · obtain ⟨⟨first, last, -⟩, rfl⟩ := CapitalRun.lower?_eq_some_iff.1 hm
    have := plain_of_mem_capitalRuns run hrun
    exact absurd_of small (by omega)

end CodePoint

namespace Text

/-- No surrogate comes in when a text is put in small letters. -/
theorem mem_of_mem_lower {t : Text} {d : CodePoint} (h : d ∈ lower t)
    (surrogate : d.isSurrogate = true) : d ∈ t := by
  have plain : ∀ d ∈ irregularSmall, d.isSurrogate = false := by decide
  rcases mem_lowerAfter h with ⟨c, hc, rfl⟩ | irregular
  · rwa [CodePoint.toLower_eq_of_isSurrogate surrogate]
  · rw [plain d irregular] at surrogate
    cases surrogate

/-- What has become of a text in small letters: each is its own small letter. -/
theorem toLower_of_mem_lowerAfter {before : Bool} {t : Text} {d : CodePoint}
    (h : d ∈ lowerAfter before t) : d.toLower = d := by
  have small : ∀ d ∈ irregularSmall, d.toLower = d := by decide +kernel
  rcases mem_lowerAfter h with ⟨c, -, rfl⟩ | irregular
  · exact c.toLower_toLower
  · exact small d irregular

theorem lowerAfter_eq_self {t : Text} (small : ∀ c ∈ t, c.toLower = c) (before : Bool) :
    lowerAfter before t = t := by
  have regular : ∀ c ∈ t, c.val ≠ 0x3A3 ∧ c.val ≠ 0x130 := fun c hc => by
    have same := small c hc
    constructor <;> intro capital
    · obtain rfl : c = ⟨0x3A3, by decide⟩ := CodePoint.ext capital
      revert same
      decide +kernel
    · obtain rfl : c = ⟨0x130, by decide⟩ := CodePoint.ext capital
      revert same
      decide
  rw [lowerAfter_of_regular regular, List.map_congr_left small, List.map_id']

/-- **A text in small letters stays as it is.** -/
theorem lower_lower (t : Text) : lower (lower t) = lower t :=
  lowerAfter_eq_self (fun _ => toLower_of_mem_lowerAfter) false

/-- A text has the small letter of each of its code points, but for the two that are more than
one letter or depend on what is around them. -/
theorem toLower_mem_lower {t : Text} {c : CodePoint} (hc : c ∈ t) (sigma : c.val ≠ 0x3A3)
    (dotted : c.val ≠ 0x130) : c.toLower ∈ lower t := by
  unfold lower
  generalize false = before
  induction t generalizing before with
  | nil => cases hc
  | cons d t ih =>
    rw [lowerAfter]
    rcases List.mem_cons.1 hc with rfl | hc
    · refine List.mem_append_left _ ?_
      rw [if_neg (by simpa using sigma), if_neg (by simpa using dotted)]
      exact List.mem_singleton_self _
    · exact List.mem_append_right _ (ih hc _)

/-- **A text with nothing but ASCII in small letters** is an ASCII text, but for Kelvin signs. -/
theorem isAscii_or_eq_kelvinSign {t : Text} (h : (lower t).isAscii = true) {c : CodePoint}
    (hc : c ∈ t) : c.isAscii = true ∨ c = CodePoint.kelvinSign := by
  unfold lower at h
  generalize false = before at h
  induction t generalizing before with
  | nil => cases hc
  | cons d t ih =>
    rw [lowerAfter, isAscii_append] at h
    rcases List.mem_cons.1 hc with rfl | hc
    · have first := h.1
      split at first
      · split at first <;> exact absurd first (by decide)
      · split at first
        · exact absurd first (by decide)
        · next dotted =>
          rcases CodePoint.isAscii_of_isAscii_toLower (by simpa [isAscii] using first) with h | h | h
          · exact .inl h
          · exact absurd (beq_iff_eq.2 h) dotted
          · exact .inr h
    · exact ih hc _ h.2

end Text

end Mailroom
