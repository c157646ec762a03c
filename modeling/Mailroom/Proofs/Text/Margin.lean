import Mailroom.Proofs.Text.Blank
import Mailroom.Proofs.Text.Lower

/-!
# Small letters between blanks

Blanks have no letter case, and no word goes on behind one. So the blanks around a text stay what
they are when it is put in small letters, and the text between them does not depend on them.

* `CodePoint.IsBound`: a code point behind which no word goes on, such as a blank or a slash;
* `Text.lower_append`: what begins with one is put in small letters apart from what is before it;
* `CodePoint.isBlank_toLower`, `Text.isTrimmed_lower`: no blank comes in, and none goes;
* `Text.blanksBehind`: the blanks at the end of a text.
-/

namespace Mailroom

/-! ### Where words end -/

namespace CodePoint

/-- No word goes on behind the code point: it is neither a letter nor passed over in a word. -/
def IsBound (c : CodePoint) : Prop := c.isCaseIgnorable = false ∧ c.isCased = false

instance (c : CodePoint) : Decidable c.IsBound := inferInstanceAs (Decidable (_ ∧ _))

theorem meetsRuns_of_inRuns {runs : List Nat} {low n high : Nat} (within : inRuns runs n = true)
    (lower : low ≤ n) (upper : n ≤ high) : meetsRuns runs low high = true := by
  fun_induction inRuns runs n with
  | case1 n start stop rest ih =>
    simp only [Bool.and_eq_true, Bool.or_eq_true, decide_eq_true_eq] at within
    simp only [meetsRuns, Bool.and_eq_true, Bool.or_eq_true, decide_eq_true_eq]
    refine ⟨by omega, within.2.imp (fun before => by omega) fun further => ?_⟩
    exact ih further lower upper
  | case2 => cases within

/-- The numbers of the blanks. -/
def blankNumbers : List Nat := [
  0x09, 0x0A, 0x0B, 0x0C, 0x0D, 0x1C, 0x1D, 0x1E, 0x1F, 0x20, 0x85, 0xA0, 0x1680, 0x2000, 0x2001,
  0x2002, 0x2003, 0x2004, 0x2005, 0x2006, 0x2007, 0x2008, 0x2009, 0x200A, 0x2028, 0x2029, 0x202F,
  0x205F, 0x3000]

theorem val_mem_of_isBlank {c : CodePoint} (h : c.isBlank = true) : c.val ∈ blankNumbers := by
  simp only [isBlank, blankRuns, inRuns, Bool.and_eq_true, Bool.or_eq_true, decide_eq_true_eq,
    Bool.false_eq_true, or_false] at h
  simp only [blankNumbers, List.mem_cons, List.not_mem_nil, or_false]
  omega

/-- A blank ends a word, and is its own small letter. -/
theorem isBound_of_isBlank {c : CodePoint} (h : c.isBlank = true) :
    c.IsBound ∧ c.toLower = c := by
  have all : ∀ n ∈ blankNumbers, ∀ h : n < 0x110000,
      IsBound ⟨n, h⟩ ∧ toLower ⟨n, h⟩ = ⟨n, h⟩ := by
    decide +kernel
  exact all c.val (val_mem_of_isBlank h) c.isLt

/-- No capital letter is a blank, nor is its small letter. -/
theorem unblank_of_mem_capitalRuns : ∀ run ∈ capitalRuns,
    meetsRuns blankRuns run.first run.last = false ∧
      meetsRuns blankRuns run.small (run.small + (run.last - run.first)) = false := by
  decide +kernel

theorem isBlank_eq_false_of_meetsRuns {c : CodePoint} {low high : Nat}
    (h : meetsRuns blankRuns low high = false) (lower : low ≤ c.val) (upper : c.val ≤ high) :
    c.isBlank = false :=
  Bool.eq_false_iff.2 fun blank => by
    rw [meetsRuns_of_inRuns blank lower upper] at h
    cases h

/-- **The small letter of a code point is a blank** exactly if that is one. -/
theorem isBlank_toLower (c : CodePoint) : c.toLower.isBlank = c.isBlank := by
  rcases c.toLower_eq_cases with same | ⟨upper, small⟩ | ⟨dotted, small⟩ | ⟨run, hrun, m, hm, small⟩
  · rw [same]
  · simp only [isAsciiUpper, within, Bool.and_eq_true, decide_eq_true_eq] at upper
    rw [small, ofNat, dif_pos (by omega)]
    have capital : meetsRuns blankRuns 0x41 0x5A = false := by decide
    have letter : meetsRuns blankRuns 0x61 0x7A = false := by decide
    rw [isBlank_eq_false_of_meetsRuns capital upper.1 upper.2]
    exact isBlank_eq_false_of_meetsRuns letter (show 0x61 ≤ c.val + 0x20 by omega)
      (show c.val + 0x20 ≤ 0x7A by omega)
  · rw [small, CodePoint.ext (b := ⟨0x130, by decide⟩) dotted]
    decide
  · obtain ⟨⟨first, last, -⟩, rfl⟩ := CapitalRun.lower?_eq_some_iff.1 hm
    obtain ⟨capital, letter⟩ := unblank_of_mem_capitalRuns run hrun
    rw [small, isBlank_eq_false_of_meetsRuns capital first last]
    unfold ofNat
    split
    · exact isBlank_eq_false_of_meetsRuns letter (Nat.le_add_right _ _)
        (show run.small + (c.val - run.first) ≤ _ by omega)
    · decide

end CodePoint

namespace Text

theorem startsWithLetter_append {t : Text} (bound : ∀ c, t.head? = some c → c.IsBound) (s : Text) :
    startsWithLetter (s ++ t) = startsWithLetter s := by
  induction s with
  | nil =>
    cases t with
    | nil => rfl
    | cons c t =>
      obtain ⟨stops, plain⟩ := bound c rfl
      show (if c.isCaseIgnorable then startsWithLetter t else c.isCased) = false
      rw [stops, plain]
      rfl
  | cons d s ih => rw [List.cons_append, startsWithLetter, ih, startsWithLetter]

/-- Behind the end of a word it does not matter what was before. -/
theorem lowerAfter_of_isBound {t : Text} (bound : ∀ c, t.head? = some c → c.IsBound)
    (before : Bool) : lowerAfter before t = lower t := by
  cases t with
  | nil => rfl
  | cons c t =>
    obtain ⟨stops, plain⟩ := bound c rfl
    have sigma : ¬ (c.val == 0x3A3) = true := fun h => by
      rw [CodePoint.ext (b := ⟨0x3A3, by decide⟩) (beq_iff_eq.1 h)] at plain
      revert plain
      decide +kernel
    unfold lower
    rw [lowerAfter, lowerAfter, if_neg sigma, if_neg sigma, stops]
    rfl

/-- **What begins with the end of a word** is put in small letters apart from what is before it. -/
theorem lower_append {t : Text} (bound : ∀ c, t.head? = some c → c.IsBound) (s : Text) :
    lower (s ++ t) = lower s ++ lower t := by
  suffices ∀ before, lowerAfter before (s ++ t) = lowerAfter before s ++ lower t from this false
  induction s with
  | nil => exact lowerAfter_of_isBound bound
  | cons d s ih =>
    intro before
    rw [List.cons_append, lowerAfter, lowerAfter, startsWithLetter_append bound, ih,
      List.append_assoc]

theorem lower_of_isBlank {t : Text} (blank : t.isBlank = true) : lower t = t :=
  lowerAfter_eq_self (fun c hc =>
    (CodePoint.isBound_of_isBlank (List.all_eq_true.1 blank c hc)).2) false

theorem lower_append_of_isBlank (s : Text) {blanks : Text} (blank : blanks.isBlank = true) :
    lower (s ++ blanks) = lower s ++ blanks := by
  have bound : ∀ c, blanks.head? = some c → c.IsBound := fun c hc =>
    (CodePoint.isBound_of_isBlank (List.all_eq_true.1 blank c (List.mem_of_head? hc))).1
  rw [lower_append bound, lower_of_isBlank blank]

/-- A blank stays, and anything else becomes something else than blanks. -/
theorem exists_lowerAfter_cons (before : Bool) (c : CodePoint) (t : Text) :
    ∃ small before', small ≠ [] ∧ (∀ d ∈ small, d.isBlank = c.isBlank) ∧
      lowerAfter before (c :: t) = small ++ lowerAfter before' t := by
  rw [lowerAfter]
  refine ⟨_, _, ?_, ?_, rfl⟩
  · split
    · simp
    · split <;> simp
  · intro d hd
    split at hd
    · next sigma =>
      rw [CodePoint.ext (b := ⟨0x3A3, by decide⟩) (beq_iff_eq.1 sigma)]
      split at hd <;> rw [List.mem_singleton] at hd <;> subst hd <;> decide
    · split at hd
      · next dotted =>
        rw [CodePoint.ext (b := ⟨0x130, by decide⟩) (beq_iff_eq.1 dotted)]
        simp only [List.mem_cons, List.not_mem_nil, or_false] at hd
        rcases hd with rfl | rfl <;> decide
      · rw [List.mem_singleton.1 hd, CodePoint.isBlank_toLower]

/-- **A trimmed text is trimmed in small letters.** -/
theorem isTrimmed_lower {t : Text} (trimmed : t.IsTrimmed) : (lower t).IsTrimmed where
  head d hd := by
    cases t with
    | nil => cases hd
    | cons c t =>
      obtain ⟨small, before, nonempty, same, h⟩ := exists_lowerAfter_cons false c t
      rw [lower, h, List.head?_append_of_ne_nil _ nonempty] at hd
      rw [same d (List.mem_of_head? hd)]
      exact trimmed.head c rfl
  last d hd := by
    have last := trimmed.last
    clear trimmed
    suffices ∀ before, (lowerAfter before t).getLast? = some d → d.isBlank = false from
      this false hd
    clear hd
    induction t with
    | nil => exact fun _ hd => by cases hd
    | cons c t ih =>
      intro before hd
      obtain ⟨small, before', nonempty, same, h⟩ := exists_lowerAfter_cons before c t
      rw [h] at hd
      cases t with
      | nil =>
        rw [lowerAfter, List.append_nil] at hd
        rw [same d (List.mem_of_getLast? hd)]
        exact last c rfl
      | cons e t =>
        obtain ⟨small', _, nonempty', -, h'⟩ := exists_lowerAfter_cons before' e t
        rw [List.getLast?_append_of_ne_nil _ (by rw [h']; simp [nonempty'])] at hd
        exact ih last before' hd

theorem lower_eq_nil_iff {t : Text} : lower t = [] ↔ t = [] := by
  cases t with
  | nil => simp
  | cons c t =>
    obtain ⟨small, before, nonempty, -, h⟩ := exists_lowerAfter_cons false c t
    simp [lower, h, nonempty]

theorem trim_eq_nil_iff {t : Text} : t.trim = [] ↔ t.isBlank = true := by
  rw [← isBlank_trim]
  have first := (isTrimmed_trim t).head
  cases h : t.trim with
  | nil => exact iff_of_true rfl rfl
  | cons c s =>
    have named : isBlank (c :: s) = false := by
      rw [h] at first
      rw [isBlank, List.all_cons, first c rfl]
      rfl
    simp [named]

/-! ### The blanks at the end -/

/-- The blanks at the end of a text. -/
def blanksBehind (t : Text) : Text := (t.reverse.takeWhile CodePoint.isBlank).reverse

theorem isBlank_blanksBehind (t : Text) : t.blanksBehind.isBlank = true := by
  rw [isBlank, blanksBehind, List.all_reverse]
  exact List.all_takeWhile

/-- Blanks that are put behind a text come to those at its end. -/
theorem blanksBehind_append (t : Text) {b : Text} (blank : b.isBlank = true) :
    (t ++ b).blanksBehind = t.blanksBehind ++ b := by
  have back : ∀ c ∈ b.reverse, c.isBlank = true := fun c hc =>
    List.all_eq_true.1 blank c (List.mem_reverse.1 hc)
  rw [blanksBehind, List.reverse_append, List.takeWhile_append_of_pos back, List.reverse_append,
    List.reverse_reverse, blanksBehind]

theorem blanksBehind_append_of_isBlank_eq_false (s : Text) {t : Text}
    (named : t.isBlank = false) : (s ++ t).blanksBehind = t.blanksBehind := by
  have some_left : (t.reverse.takeWhile CodePoint.isBlank).length ≠ t.reverse.length := by
    intro all
    have whole := List.IsPrefix.eq_of_length (List.takeWhile_prefix CodePoint.isBlank) all
    have blank := List.all_takeWhile (p := CodePoint.isBlank) (l := t.reverse)
    rw [whole, List.all_reverse, ← isBlank, named] at blank
    cases blank
  rw [blanksBehind, List.reverse_append, List.takeWhile_append, if_neg some_left, blanksBehind]

theorem blanksBehind_of_isTrimmed {t : Text} (trimmed : t.IsTrimmed) : t.blanksBehind = [] := by
  have last := trimmed.last
  rw [← List.head?_reverse] at last
  unfold blanksBehind
  cases back : t.reverse with
  | nil => rfl
  | cons c s =>
    rw [back] at last
    rw [List.takeWhile_cons_of_neg (by simp [last c rfl])]
    rfl

/-- Only the blanks at its beginning are taken from a text that has something else in it. -/
theorem exists_append_blanksBehind {t : Text} (named : t.isBlank = false) :
    ∃ l, l.isBlank = true ∧ t = l ++ (t.trim ++ t.blanksBehind) := by
  obtain ⟨l, r, whole, left, right, trimmed⟩ := exists_blanks t
  have inner : t.trim.isBlank = false := (isBlank_trim t).trans named
  have behind : t.blanksBehind = r := by
    conv_lhs => rw [whole]
    rw [blanksBehind_append _ right, blanksBehind_append_of_isBlank_eq_false l inner,
      blanksBehind_of_isTrimmed trimmed, List.nil_append]
  exact ⟨l, left, by rw [behind, ← List.append_assoc]; exact whole⟩

/-- Blanks around a text are taken away with its own. -/
theorem trim_between {l r : Text} (left : l.isBlank = true) (right : r.isBlank = true) (t : Text) :
    trim (l ++ t ++ r) = t.trim := by
  obtain ⟨l', r', whole, left', right', trimmed⟩ := exists_blanks t
  conv_lhs => rw [whole]
  have parts : l ++ (l' ++ t.trim ++ r') ++ r = (l ++ l') ++ t.trim ++ (r' ++ r) := by
    simp only [List.append_assoc]
  rw [parts]
  exact trim_append (by rw [isBlank_append, left, left']; rfl) trimmed
    (by rw [isBlank_append, right', right]; rfl)

end Text

end Mailroom
