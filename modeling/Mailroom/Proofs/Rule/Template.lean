import Mailroom.Proofs.Header.Token
import Mailroom.Rule.Template

/-!
# What goes into a rendered template

* `Template.Mentions`: a template has a placeholder for a field that is not hidden;
* `Template.render_congr`: a rendered template depends on these fields alone;
* `Template.isUnbroken_render`: it has breaks only if it, or one of these values, has some;
* `Template.canonical_ne_of_mentions`: no such field is `Bcc`.
-/

namespace Mailroom.Template

/-- A template has a placeholder for a field that is not hidden. -/
def Mentions (t field : Text) : Prop :=
  Segment.placeholder field ∈ segments t ∧ Text.lower field ≠ Text.ofString "bcc"

instance (t field : Text) : Decidable (Mentions t field) := inferInstanceAs (Decidable (_ ∧ _))

/-- A rendered template depends on the fields that it mentions alone. -/
theorem render_congr {v w : Text → Text} {t : Text}
    (same : ∀ field, Mentions t field → v field = w field) : render v t = render w t := by
  unfold render
  rw [List.flatMap_def, List.flatMap_def]
  refine congrArg List.flatten (List.map_congr_left fun segment hsegment => ?_)
  cases segment with
  | char c => rfl
  | placeholder field =>
    simp only [Segment.render]
    split
    · rfl
    · next shown => exact same field ⟨hsegment, shown⟩

theorem mem_placeholder? {t name rest : Text} (h : placeholder? t = some (name, rest)) :
    name ≠ [] ∧ ∀ c ∈ name, isNameChar c = true := by
  unfold placeholder? at h
  split at h
  · dsimp only at h
    split at h
    · next found =>
      cases h
      simp only [Bool.and_eq_true, Bool.not_eq_true', List.isEmpty_eq_false_iff] at found
      exact ⟨found.1, fun c hc => List.all_eq_true.1 List.all_takeWhile c hc⟩
    · cases h
  · cases h

/-- A segment is a code point of a text, or a placeholder with a name in it. -/
def Segment.IsFrom (t : Text) : Segment → Prop
  | char c => c ∈ t
  | placeholder name => name ≠ [] ∧ ∀ c ∈ name, isNameChar c = true

theorem isFrom_of_mem_segmentsAfter {skip : Nat} {t : Text} {segment : Segment}
    (h : segment ∈ segmentsAfter skip t) : segment.IsFrom t := by
  induction t generalizing skip with
  | nil => cases h
  | cons c t ih =>
    -- the number of code points that a placeholder has used up makes no difference
    have later : ∀ {skip}, segment ∈ segmentsAfter skip t → segment.IsFrom (c :: t) := fun h => by
      have := ih h
      cases segment with
      | char d => exact List.mem_cons_of_mem c this
      | placeholder name => exact this
    cases skip with
    | succ skip => exact later h
    | zero =>
      rw [segmentsAfter] at h
      split at h
      · next name rest found =>
        rcases List.mem_cons.1 h with rfl | h
        · exact mem_placeholder? found
        · exact later h
      · rcases List.mem_cons.1 h with rfl | h
        · exact List.mem_cons_self
        · exact later h

theorem isTokenChar_of_isNameChar {c : CodePoint} (h : isNameChar c = true) :
    FieldName.isTokenChar c = true := by
  unfold FieldName.isTokenChar
  simp only [isNameChar, Bool.or_eq_true, beq_iff_eq] at h ⊢
  rcases h with ((letter | digit) | low) | hyphen
  · exact .inl (.inl letter)
  · exact .inl (.inr digit)
  · rw [show c = ⟨0x5F, by decide⟩ from CodePoint.ext low]
    exact .inr (by decide)
  · rw [show c = ⟨0x2D, by decide⟩ from CodePoint.ext hyphen]
    exact .inr (by decide)

theorem isToken_of_isNameChar {name : Text} (nonempty : name ≠ [])
    (chars : ∀ c ∈ name, isNameChar c = true) : FieldName.isToken name = true :=
  FieldName.isToken_iff.2 ⟨nonempty, fun c hc => isTokenChar_of_isNameChar (chars c hc)⟩

/-- No field that a template mentions is `Bcc`, in whatever case. -/
theorem canonical_ne_of_mentions {t field : Text} (h : Mentions t field) :
    FieldName.canonical field ≠ Text.ofString "Bcc" := by
  obtain ⟨hmem, shown⟩ := h
  obtain ⟨nonempty, chars⟩ := isFrom_of_mem_segmentsAfter hmem
  intro hidden
  have token := isToken_of_isNameChar nonempty chars
  exact shown (FieldName.lower_eq_of_canonical_eq (FieldName.isValid_of_isToken token)
    (FieldName.isAscii_of_isToken token) hidden)

/-- A rendered template has breaks only if it, or a value that it mentions, has some. -/
theorem isUnbroken_render {v : Text → Text} {t : Text} (ht : t.IsUnbroken)
    (hv : ∀ field, Mentions t field → (v field).IsUnbroken) : (render v t).IsUnbroken := by
  intro c hc
  obtain ⟨segment, hsegment, hc⟩ := List.mem_flatMap.1 hc
  cases segment with
  | char d =>
    rw [List.mem_singleton.1 hc]
    exact ht d (isFrom_of_mem_segmentsAfter hsegment)
  | placeholder field =>
    simp only [Segment.render] at hc
    split at hc
    · cases hc
    · next shown => exact hv field ⟨hsegment, shown⟩ c hc

end Mailroom.Template
