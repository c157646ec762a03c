import Mailroom.Header.Name
import Mailroom.Proofs.Header.Lines
import Mailroom.Proofs.Text.Split

/-!
# Letter case

* `Text.mem_lower`: nothing but letters comes in when a text is put in small letters;
* `FieldName.mem_canonical`: nothing but letters and hyphens comes in when a name is put into
  canonical form, so names stay names;
* `Text.lower_of_isAscii`: ASCII texts are put in small letters one by one;
* `FieldName.lower_eq_of_canonical_eq`: a name with the canonical form of `Bcc` is that name.
-/

namespace Mailroom

namespace CodePoint

theorem small_le_lower? {run : CapitalRun} {n m : Nat} (h : run.lower? n = some m) :
    run.small ≤ m := by
  unfold CapitalRun.lower? at h
  split at h
  · cases h
    exact Nat.le_add_right _ _
  · cases h

theorem small_of_mem_capitalRuns : ∀ run ∈ capitalRuns, 0x61 ≤ run.small := by
  decide +kernel

/-- A code point is its own small letter, or this is indeed a letter. -/
theorem toLower_cases (c : CodePoint) : c.toLower = c ∨ 0x61 ≤ c.toLower.val := by
  have le_ofNat : ∀ {n : Nat}, 0x61 ≤ n → 0x61 ≤ (ofNat n).val := fun {n} hn => by
    unfold ofNat
    split
    · exact hn
    · decide
  unfold toLower
  split
  · split
    · next upper =>
      simp only [isAsciiUpper, within, Bool.and_eq_true, decide_eq_true_eq] at upper
      exact .inr (le_ofNat (by omega))
    · exact .inl rfl
  · split
    · exact .inr (by decide)
    · split
      · next n found =>
        obtain ⟨run, hrun, hlower⟩ := List.exists_of_findSome?_eq_some found
        exact .inr (le_ofNat
          (Nat.le_trans (small_of_mem_capitalRuns run hrun) (small_le_lower? hlower)))
      · exact .inl rfl

theorem toAsciiUpper_cases (c : CodePoint) : c.toAsciiUpper = c ∨ 0x41 ≤ c.toAsciiUpper.val := by
  unfold toAsciiUpper
  split
  · next small =>
    simp only [isAsciiLower, within, Bool.and_eq_true, decide_eq_true_eq] at small
    refine .inr ?_
    unfold ofNat
    split
    · show 0x41 ≤ c.val - 0x20
      omega
    · decide
  · exact .inl rfl

end CodePoint

namespace Text

/-- The small letters of the capital sigma, and those of the dotted capital I with its mark. -/
def irregularSmall : Text :=
  [CodePoint.ofNat 0x3C2, CodePoint.ofNat 0x3C3, CodePoint.ofChar 'i', CodePoint.ofNat 0x307]

/-- In a text that is put in small letters, each is the small letter of a code point, or one of
those that come in otherwise. -/
theorem mem_lowerAfter {before : Bool} {t : Text} {d : CodePoint}
    (h : d ∈ lowerAfter before t) : (∃ c ∈ t, d = c.toLower) ∨ d ∈ irregularSmall := by
  induction t generalizing before with
  | nil => cases h
  | cons c t ih =>
    rw [lowerAfter] at h
    rcases List.mem_append.1 h with h | h
    · split at h
      · refine .inr ?_
        split at h <;> rw [List.mem_singleton.1 h] <;> decide
      · split at h
        · exact .inr (List.mem_of_mem_drop (i := 2) h)
        · exact .inl ⟨c, List.mem_cons_self, List.mem_singleton.1 h⟩
    · exact (ih h).imp_left fun ⟨c', hc', small⟩ => ⟨c', List.mem_cons_of_mem c hc', small⟩

/-- Nothing but letters comes in when a text is put in small letters. -/
theorem mem_lower {t : Text} {d : CodePoint} (h : d ∈ lower t) : d ∈ t ∨ 0x61 ≤ d.val := by
  have letters : ∀ d ∈ irregularSmall, 0x61 ≤ d.val := by decide
  rcases mem_lowerAfter h with ⟨c, hc, rfl⟩ | irregular
  · exact c.toLower_cases.imp_left fun same => by rwa [same]
  · exact .inr (letters d irregular)

/-- Without the two that are more than one letter or depend on what is around them, code points are
put in small letters one by one. -/
theorem lowerAfter_of_regular {t : Text} (regular : ∀ c ∈ t, c.val ≠ 0x3A3 ∧ c.val ≠ 0x130)
    (before : Bool) : lowerAfter before t = t.map CodePoint.toLower := by
  induction t generalizing before with
  | nil => rfl
  | cons c t ih =>
    obtain ⟨⟨sigma, dotted⟩, others⟩ := List.forall_mem_cons.1 regular
    rw [lowerAfter, if_neg (by simpa using sigma), if_neg (by simpa using dotted), ih others]
    rfl

/-- ASCII texts are put in small letters one by one. -/
theorem lower_of_isAscii {t : Text} (ascii : t.isAscii = true) :
    lower t = t.map CodePoint.toLower := by
  refine lowerAfter_of_regular (fun c hc => ?_) false
  have : c.val < 0x80 := of_decide_eq_true (List.all_eq_true.1 ascii c hc)
  omega

end Text

namespace FieldName

theorem mem_capitalized {t : Text} {d : CodePoint} (h : d ∈ capitalized t) :
    d ∈ t ∨ 0x41 ≤ d.val := by
  cases t with
  | nil => cases h
  | cons c t =>
    rcases List.mem_cons.1 h with rfl | h
    · exact c.toAsciiUpper_cases.imp_left fun same => by rw [same]; exact List.mem_cons_self
    · rcases Text.mem_lower h with h | h
      · exact .inl (List.mem_cons_of_mem c h)
      · exact .inr (by omega)

/-- Nothing but letters and hyphens comes in when a name is put into canonical form. -/
theorem mem_canonical {t : Text} {d : CodePoint} (h : d ∈ canonical t) :
    d ∈ t ∨ d.val = 0x2D ∨ 0x41 ≤ d.val := by
  unfold canonical at h
  split at h
  · rcases Text.mem_join h with h | ⟨piece, hpiece, h⟩
    · exact .inr (.inl (by rw [List.mem_singleton.1 h]; decide))
    · obtain ⟨p, hp, rfl⟩ := List.mem_map.1 hpiece
      exact (mem_capitalized h).imp (Text.mem_of_mem_splitOn hp) .inr
  · exact (Text.mem_lower h).imp_right fun letter => .inr (by omega)

theorem isName_canonical {t : Text} (h : t.IsName) : (canonical t).IsName := by
  intro d hd
  rcases mem_canonical hd with hd | hd | hd
  · exact h d hd
  all_goals
    unfold CodePoint.IsBreak
    omega

theorem toLower_eq_of_toAsciiUpper_eq {c : CodePoint} (h : c.toAsciiUpper = CodePoint.ofChar 'B') :
    c.toLower = CodePoint.ofChar 'b' := by
  have letter : c.val = 0x42 ∨ c.val = 0x62 := by
    have hval := congrArg CodePoint.val h
    rw [show (CodePoint.ofChar 'B').val = 0x42 from rfl] at hval
    unfold CodePoint.toAsciiUpper at hval
    split at hval
    · next small =>
      simp only [CodePoint.isAsciiLower, CodePoint.within, Bool.and_eq_true,
        decide_eq_true_eq] at small
      rw [CodePoint.ofNat, dif_pos (by omega)] at hval
      exact .inr (by simp only at hval; omega)
    · exact .inl hval
  rcases letter with hc | hc
  · rw [show c = ⟨0x42, by decide⟩ from CodePoint.ext hc]
    decide
  · rw [show c = ⟨0x62, by decide⟩ from CodePoint.ext hc]
    decide

/-- A token with the canonical form of `Bcc` is that name in some case. -/
theorem lower_eq_of_canonical_eq {t : Text} (token : isValid t = true) (ascii : t.isAscii = true)
    (h : canonical t = Text.ofString "Bcc") : Text.lower t = Text.ofString "bcc" := by
  unfold canonical at h
  rw [if_pos token] at h
  have whole := Text.join_splitOn (CodePoint.ofChar '-') t
  rcases hsplit : Text.splitOn (CodePoint.ofChar '-') t with _ | ⟨piece, _ | ⟨next, pieces⟩⟩
  · rw [hsplit] at h
    cases h
  · rw [hsplit] at h whole
    have : piece = t := whole
    subst this
    have h : capitalized piece = Text.ofString "Bcc" := h
    cases piece with
    | nil => cases h
    | cons c t =>
      obtain ⟨hc, ht⟩ := List.cons.inj h
      rw [Text.lower_of_isAscii ascii, List.map_cons, toLower_eq_of_toAsciiUpper_eq hc,
        ← Text.lower_of_isAscii (Text.isAscii_cons.1 ascii).2, ht]
      rfl
  · -- a hyphen would have stayed where it was
    have hyphen : CodePoint.ofChar '-' ∈ Text.ofString "Bcc" := by
      rw [← h, hsplit, List.map_cons, List.map_cons, Text.join]
      exact List.mem_append_left _ (List.mem_append_right _ List.mem_cons_self)
    exact absurd hyphen (by decide)

end FieldName

end Mailroom
