import Mathlib.Data.List.Forall2
import Mailroom.Proofs.Text.Lower

/-!
# Names in canonical form

A field name keeps its canonical form when it is put into it once more. A text that is no field
name may become one in small letters, and then a second round capitalizes it.

* `FieldName.isValid_congr`: whether a text is a field name depends on the kinds of its code points;
* `FieldName.respells_canonical`: an ASCII text keeps their kinds in canonical form;
* `FieldName.mem_of_mem_canonical`: no surrogate comes in with canonical form;
* `FieldName.IsSettled`: a text that is its own canonical form;
* `FieldName.isSettled_canonical_or`: a canonical form is settled, unless the text has a Kelvin sign
  and becomes a field name in small letters;
* `FieldName.isSettled_canonical_canonical`: a second round settles it.
-/

namespace Mailroom.FieldName

/-! ### Kinds of code points -/

theorem isAscii_of_isTokenChar {c : CodePoint} (h : isTokenChar c = true) : c.isAscii = true := by
  have marks : ∀ m ∈ tokenMarks, m.isAscii = true := by decide
  simp only [isTokenChar, Bool.or_eq_true, List.contains_iff_mem] at h
  rcases h with alphanumeric | mark
  · exact CodePoint.isAscii_of_letter_or_digit alphanumeric
  · exact marks c mark

/-- Two code points that a field name may hold, or line feeds, or neither. -/
structure SameKind (c d : CodePoint) : Prop where
  token : isTokenChar c = isTokenChar d
  feed : c.val = 0x0A ↔ d.val = 0x0A

theorem isToken_congr {t u : Text} (h : List.Forall₂ SameKind t u) : isToken t = isToken u := by
  have all : t.all isTokenChar = u.all isTokenChar := by
    induction h with
    | nil => rfl
    | cons hc _ ih => rw [List.all_cons, List.all_cons, hc.token, ih]
  unfold isToken
  rw [all]
  cases h <;> rfl

theorem dropLineFeed_congr {t u : Text} (h : List.Forall₂ SameKind t u) :
    List.Forall₂ SameKind (dropLineFeed t) (dropLineFeed u) := by
  have backwards := List.forall₂_reverse_iff.2 h
  unfold dropLineFeed
  cases ht : t.reverse with
  | nil =>
    rw [ht] at backwards
    rw [List.forall₂_nil_left_iff.1 backwards]
    exact h
  | cons c s =>
    rw [ht] at backwards
    obtain ⟨d, v, hc, hs, hu⟩ := List.forall₂_cons_left_iff.1 backwards
    rw [hu]
    by_cases feed : c.val = 0x0A
    · simp only [if_pos feed, if_pos (hc.feed.1 feed)]
      exact List.forall₂_reverse_iff.2 hs
    · simp only [if_neg feed, if_neg fun hd => feed (hc.feed.2 hd)]
      exact h

/-- Whether a text is a field name depends on the kinds of its code points alone. -/
theorem isValid_congr {t u : Text} (h : List.Forall₂ SameKind t u) : isValid t = isValid u :=
  isToken_congr (dropLineFeed_congr h)

theorem isAscii_of_isValid {t : Text} (h : isValid t = true) : t.isAscii = true := by
  have token : ∀ c ∈ dropLineFeed t, c.isAscii = true := by
    simp only [isValid, isToken, Bool.and_eq_true, List.all_eq_true] at h
    exact fun c hc => isAscii_of_isTokenChar (h.2 c hc)
  refine List.all_eq_true.2 fun c hc => ?_
  unfold dropLineFeed at token
  cases ht : t.reverse with
  | nil =>
    rw [List.reverse_eq_nil_iff.1 ht] at hc
    cases hc
  | cons d s =>
    simp only [ht] at token
    by_cases feed : d.val = 0x0A
    · rw [if_pos feed] at token
      rw [← List.mem_reverse, ht] at hc
      rcases List.mem_cons.1 hc with rfl | hc
      · exact decide_eq_true (by omega)
      · exact token c (List.mem_reverse.2 hc)
    · rw [if_neg feed] at token
      exact token c hc

/-! ### Another spelling -/

/-- A code point and what canonical form may make of it. -/
def Respells (c d : CodePoint) : Prop := d = c.toAsciiUpper ∨ d = c.toLower

/-- A letter stays a letter, and anything else stays what it is. -/
theorem sameKind_of_respells {c d : CodePoint} (ascii : c.isAscii = true) (h : Respells c d) :
    SameKind c d := by
  have all : ∀ c : CodePoint, c.isAscii = true →
      (isTokenChar c = isTokenChar c.toAsciiUpper ∧ isTokenChar c = isTokenChar c.toLower) ∧
        (c.val = 0x0A ↔ c.toAsciiUpper.val = 0x0A) ∧ (c.val = 0x0A ↔ c.toLower.val = 0x0A) := by
    decide +kernel
  obtain ⟨⟨upper, lower⟩, upperFeed, lowerFeed⟩ := all c ascii
  rcases h with rfl | rfl
  · exact ⟨upper, upperFeed⟩
  · exact ⟨lower, lowerFeed⟩

/-- What holds of every ASCII code point and another spelling of it holds of texts. -/
theorem forall₂_of_respells {R : CodePoint → CodePoint → Prop} {t u : Text}
    (each : ∀ c d, c.isAscii = true → Respells c d → R c d) (ascii : t.isAscii = true)
    (h : List.Forall₂ Respells t u) : List.Forall₂ R t u := by
  have both := (List.forall₂_and_left t u).2 ⟨List.all_eq_true.1 ascii, h⟩
  exact both.imp fun c d h => each c d h.1 h.2

theorem sameKind_of_forall₂ {t u : Text} (ascii : t.isAscii = true)
    (h : List.Forall₂ Respells t u) : List.Forall₂ SameKind t u :=
  forall₂_of_respells (fun _ _ => sameKind_of_respells) ascii h

theorem respells_lower {t : Text} (ascii : t.isAscii = true) :
    List.Forall₂ Respells t (Text.lower t) := by
  rw [Text.lower_of_isAscii ascii, List.forall₂_map_right_iff]
  exact List.forall₂_same.2 fun c _ => .inr rfl

theorem respells_capitalized {t : Text} (ascii : t.isAscii = true) :
    List.Forall₂ Respells t (capitalized t) := by
  cases t with
  | nil => exact .nil
  | cons c t =>
    rw [Text.isAscii_cons] at ascii
    exact .cons (.inl rfl) (respells_lower ascii.2)

theorem respells_join {pieces : List Text} (ascii : ∀ piece ∈ pieces, piece.isAscii = true) :
    List.Forall₂ Respells (Text.join "-" pieces) (Text.join "-" (pieces.map capitalized)) := by
  have hyphen : List.Forall₂ Respells (Text.ofString "-") (Text.ofString "-") :=
    .cons (.inl (by decide)) .nil
  induction pieces with
  | nil => exact .nil
  | cons t pieces ih =>
    rw [List.forall_mem_cons] at ascii
    cases pieces with
    | nil => exact respells_capitalized ascii.1
    | cons u ts =>
      exact List.rel_append (List.rel_append (respells_capitalized ascii.1) hyphen) (ih ascii.2)

/-- **An ASCII text is spelled another way** in canonical form, code point by code point. -/
theorem respells_canonical {t : Text} (ascii : t.isAscii = true) :
    List.Forall₂ Respells t (canonical t) := by
  unfold canonical
  split
  · have all : ∀ piece ∈ Text.splitOn '-' t, piece.isAscii = true := fun piece hpiece =>
      List.all_eq_true.2 fun c hc =>
        List.all_eq_true.1 ascii c (Text.mem_of_mem_splitOn hpiece hc)
    have pieces := respells_join all
    rwa [show Text.ofString "-" = [CodePoint.ofChar '-'] from rfl, Text.join_splitOn] at pieces
  · exact respells_lower ascii

theorem exists_respells_of_mem {t u : Text} (h : List.Forall₂ Respells t u) {c : CodePoint}
    (hc : c ∈ t) : ∃ d ∈ u, Respells c d := by
  induction h with
  | nil => cases hc
  | cons first _ ih =>
    rcases List.mem_cons.1 hc with rfl | hc
    · exact ⟨_, List.mem_cons_self, first⟩
    · obtain ⟨d, hd, respelt⟩ := ih hc
      exact ⟨d, List.mem_cons_of_mem _ hd, respelt⟩

theorem isAscii_of_isToken {t : Text} (token : isToken t = true) : t.isAscii = true := by
  rw [isToken, Bool.and_eq_true, List.all_eq_true] at token
  exact List.all_eq_true.2 fun c hc => isAscii_of_isTokenChar (token.2 c hc)

/-- A token stays one in canonical form. -/
theorem isToken_canonical {t : Text} (token : isToken t = true) :
    isToken (canonical t) = true := by
  have ascii := isAscii_of_isToken token
  rw [← isToken_congr (sameKind_of_forall₂ ascii (respells_canonical ascii))]
  exact token

/-- An ASCII text and its canonical form are the same in small letters. -/
theorem lower_canonical {t : Text} (ascii : t.isAscii = true) :
    Text.lower (canonical t) = Text.lower t := by
  have upper : ∀ c : CodePoint, c.isAscii = true →
      (c.toAsciiUpper.isAscii = true ∧ c.toLower.isAscii = true) ∧
        c.toAsciiUpper.toLower = c.toLower := by
    decide +kernel
  have small : ∀ {c d : CodePoint}, c.isAscii = true → Respells c d →
      d.isAscii = true ∧ d.toLower = c.toLower := by
    rintro c d hc (rfl | rfl)
    · exact ⟨(upper c hc).1.1, (upper c hc).2⟩
    · exact ⟨(upper c hc).1.2, c.toLower_toLower⟩
  have both : (canonical t).isAscii = true ∧
      (canonical t).map CodePoint.toLower = t.map CodePoint.toLower := by
    have respelt := respells_canonical ascii
    generalize canonical t = u at respelt
    induction respelt with
    | nil => exact ⟨rfl, rfl⟩
    | @cons c d t u hc _ ih =>
      rw [Text.isAscii_cons] at ascii ⊢
      obtain ⟨others, same⟩ := ih ascii.2
      obtain ⟨first, same'⟩ := small ascii.1 hc
      exact ⟨⟨first, others⟩, by rw [List.map_cons, List.map_cons, same, same']⟩
  rw [Text.lower_of_isAscii both.1, Text.lower_of_isAscii ascii, both.2]

theorem toAsciiUpper_eq_of_isSurrogate {c : CodePoint}
    (h : c.toAsciiUpper.isSurrogate = true) : c.toAsciiUpper = c := by
  unfold CodePoint.toAsciiUpper at h ⊢
  split
  · next small =>
    simp only [CodePoint.isAsciiLower, CodePoint.within, Bool.and_eq_true,
      decide_eq_true_eq] at small
    rw [if_pos (by simp [CodePoint.isAsciiLower, CodePoint.within, small]),
      CodePoint.isSurrogate_ofNat (by omega)] at h
    cases h
  · rfl

/-- No surrogate comes in when a name is put into canonical form. -/
theorem mem_of_mem_canonical {t : Text} {d : CodePoint} (h : d ∈ canonical t)
    (surrogate : d.isSurrogate = true) : d ∈ t := by
  unfold canonical at h
  split at h
  · rcases Text.mem_join h with h | ⟨piece, hpiece, h⟩
    · rw [List.mem_singleton.1 h] at surrogate
      exact absurd surrogate (by decide)
    · obtain ⟨p, hp, rfl⟩ := List.mem_map.1 hpiece
      refine Text.mem_of_mem_splitOn hp ?_
      cases p with
      | nil => cases h
      | cons c p =>
        rcases List.mem_cons.1 h with rfl | h
        · rw [toAsciiUpper_eq_of_isSurrogate surrogate]
          exact List.mem_cons_self
        · exact List.mem_cons_of_mem c (Text.mem_of_mem_lower h surrogate)
  · exact Text.mem_of_mem_lower h surrogate

/-! ### Settled names -/

/-- A text that is its own canonical form. -/
def IsSettled (t : Text) : Prop := canonical t = t

instance (t : Text) : Decidable (IsSettled t) := inferInstanceAs (Decidable (_ = _))

theorem toAsciiUpper_toAsciiUpper (c : CodePoint) :
    c.toAsciiUpper.toAsciiUpper = c.toAsciiUpper := by
  by_cases small : c.isAsciiLower = true
  · have upper : c.toAsciiUpper = CodePoint.ofNat (c.val - 0x20) := if_pos small
    simp only [CodePoint.isAsciiLower, CodePoint.within, Bool.and_eq_true,
      decide_eq_true_eq] at small
    rw [upper, CodePoint.ofNat, dif_pos (by omega), CodePoint.toAsciiUpper, if_neg]
    simp only [CodePoint.isAsciiLower, CodePoint.within, Bool.and_eq_true, decide_eq_true_eq]
    omega
  · have same : c.toAsciiUpper = c := if_neg small
    rw [same, same]

theorem capitalized_capitalized (t : Text) : capitalized (capitalized t) = capitalized t := by
  cases t with
  | nil => rfl
  | cons c t => rw [capitalized, capitalized, toAsciiUpper_toAsciiUpper, Text.lower_lower]

/-- **The canonical form of a field name is settled.** -/
theorem isSettled_canonical_of_isValid {t : Text} (valid : isValid t = true) :
    IsSettled (canonical t) := by
  have ascii := isAscii_of_isValid valid
  have again : isValid (canonical t) = true := by
    rw [← isValid_congr (sameKind_of_forall₂ ascii (respells_canonical ascii))]
    exact valid
  have shape : canonical t = Text.join "-" ((Text.splitOn '-' t).map capitalized) := if_pos valid
  -- no capital is a hyphen, so the pieces are found again
  have pieces : Text.splitOn '-' (canonical t) = (Text.splitOn '-' t).map capitalized := by
    rw [shape]
    refine Text.splitOn_join (by simp [Text.splitOn_ne_nil]) fun piece hpiece hyphen => ?_
    obtain ⟨p, hp, rfl⟩ := List.mem_map.1 hpiece
    rcases mem_capitalized hyphen with h | h
    · exact Text.not_mem_of_mem_splitOn hp h
    · exact absurd h (by decide)
  have twice : capitalized ∘ capitalized = capitalized := funext capitalized_capitalized
  calc canonical (canonical t)
      = Text.join "-" ((Text.splitOn '-' (canonical t)).map capitalized) := if_pos again
    _ = Text.join "-" ((Text.splitOn '-' t).map capitalized) := by
      rw [pieces, List.map_map, twice]
    _ = canonical t := shape.symm

/-- What becomes a field name in small letters alone has a Kelvin sign. -/
theorem kelvinSign_mem {t : Text} (invalid : isValid t = false)
    (becomes : isValid (Text.lower t) = true) : CodePoint.kelvinSign ∈ t := by
  -- without the sign the text would be ASCII, and a field name as it stands
  by_contra absent
  have ascii : t.isAscii = true := List.all_eq_true.2 fun c hc =>
    (Text.isAscii_or_eq_kelvinSign (isAscii_of_isValid becomes) hc).resolve_right fun sign =>
      absent (sign ▸ hc)
  rw [isValid_congr (sameKind_of_forall₂ ascii (respells_lower ascii)), becomes] at invalid
  cases invalid

/-- **A canonical form is settled**, unless it comes of a text that has a Kelvin sign and is a field
name in small letters only. -/
theorem isSettled_canonical_or (t : Text) :
    IsSettled (canonical t) ∨
      (isValid t = false ∧ isValid (Text.lower t) = true ∧ CodePoint.kelvinSign ∈ t) := by
  cases valid : isValid t with
  | true => exact .inl (isSettled_canonical_of_isValid valid)
  | false =>
    have small : canonical t = Text.lower t := if_neg (by simp [valid])
    cases becomes : isValid (Text.lower t) with
    | false =>
      refine .inl ?_
      rw [IsSettled, small, canonical, if_neg (by simp [becomes]), Text.lower_lower]
    | true => exact .inr ⟨rfl, rfl, kelvinSign_mem valid becomes⟩

/-- **A second round settles a name.** -/
theorem isSettled_canonical_canonical (t : Text) : IsSettled (canonical (canonical t)) := by
  rcases isSettled_canonical_or t with settled | ⟨invalid, becomes, -⟩
  · rw [show canonical (canonical t) = canonical t from settled]
    exact settled
  · have small : canonical t = Text.lower t := if_neg (by simp [invalid])
    rw [small]
    exact isSettled_canonical_of_isValid becomes

/-- What a second round makes of a canonical form that is not settled has the letter in it that
comes of a Kelvin sign. -/
theorem exists_mem_of_not_isSettled {t : Text} (unsettled : ¬ IsSettled (canonical t)) :
    ∃ c ∈ canonical (canonical t), c = CodePoint.ofChar 'K' ∨ c = CodePoint.ofChar 'k' := by
  obtain ⟨invalid, becomes, sign⟩ := (isSettled_canonical_or t).resolve_left unsettled
  have small : canonical t = Text.lower t := if_neg (by simp [invalid])
  have letter : CodePoint.ofChar 'k' ∈ canonical t := by
    have small_sign : CodePoint.kelvinSign.toLower = CodePoint.ofChar 'k' := by decide +kernel
    rw [small, ← small_sign]
    exact Text.toLower_mem_lower sign (by decide) (by decide)
  have ascii : (canonical t).isAscii = true := small ▸ isAscii_of_isValid becomes
  obtain ⟨c, hc, respelt⟩ := exists_respells_of_mem (respells_canonical ascii) letter
  refine ⟨c, hc, ?_⟩
  rcases respelt with rfl | rfl
  · exact .inl (by decide)
  · exact .inr (by decide +kernel)

/-- A settled name without that letter is the canonical form of no other canonical form. -/
theorem canonical_canonical_eq_iff {name : Text} (settled : IsSettled name)
    (plain : CodePoint.ofChar 'K' ∉ name ∧ CodePoint.ofChar 'k' ∉ name) (spelling : Text) :
    canonical (canonical spelling) = name ↔ canonical spelling = name := by
  constructor
  · intro becomes
    by_cases h : IsSettled (canonical spelling)
    · rw [← becomes]
      exact h.symm
    · obtain ⟨c, hc, rfl | rfl⟩ := exists_mem_of_not_isSettled h
      · exact absurd (becomes ▸ hc) plain.1
      · exact absurd (becomes ▸ hc) plain.2
  · intro same
    rw [same]
    exact settled

end Mailroom.FieldName
