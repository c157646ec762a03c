import Mailroom.Proofs.Text.Split
import Mailroom.Proofs.Text.Trim

/-!
# Blanks at the ends of a text

* `Text.IsTrimmed`: a text has no blank at either end;
* `Text.trim_append`: what is left of such a text between blanks;
* `Text.exists_blanks`: every text is what is left of it, between blanks;
* `Text.trim_eq_self_iff`: a text is what is left of it exactly if it is trimmed;
* `Text.isTrimmed_join`: joined texts are trimmed if the first and the last are.
-/

namespace Mailroom.Text

/-- Neither the first nor the last code point is a blank. -/
structure IsTrimmed (t : Text) : Prop where
  head : ∀ c, t.head? = some c → c.isBlank = false
  last : ∀ c, t.getLast? = some c → c.isBlank = false

theorem isBlank_append {s t : Text} : isBlank (s ++ t) = (isBlank s && isBlank t) :=
  List.all_append

theorem isTrimmed_iff_endsOutside {t : Text} : t.IsTrimmed ↔ t.EndsOutside CodePoint.isBlank :=
  ⟨fun h => ⟨h.head, h.last⟩, fun h => ⟨h.head, h.last⟩⟩

/-- The blanks around a trimmed text are what is taken away. -/
theorem trim_append {l t r : Text} (left : l.isBlank = true) (trimmed : t.IsTrimmed)
    (right : r.isBlank = true) : trim (l ++ t ++ r) = t :=
  trimWhere_append (List.all_eq_true.1 left) (isTrimmed_iff_endsOutside.1 trimmed)
    (List.all_eq_true.1 right)

/-- Every text is what is left of it, between blanks. -/
theorem exists_blanks (t : Text) :
    ∃ l r, t = l ++ t.trim ++ r ∧ l.isBlank = true ∧ r.isBlank = true ∧ t.trim.IsTrimmed := by
  obtain ⟨l, r, whole, left, right, ends⟩ := exists_trimWhere CodePoint.isBlank t
  exact ⟨l, r, whole, List.all_eq_true.2 left, List.all_eq_true.2 right,
    isTrimmed_iff_endsOutside.2 ends⟩

theorem isTrimmed_trim (t : Text) : t.trim.IsTrimmed := by
  obtain ⟨_, _, _, _, _, trimmed⟩ := exists_blanks t
  exact trimmed

/-- A text is what is left of it exactly if it is trimmed. -/
theorem trim_eq_self_iff {t : Text} : t.trim = t ↔ t.IsTrimmed := by
  refine ⟨fun same => same ▸ isTrimmed_trim t, fun trimmed => ?_⟩
  have := trim_append (l := []) (r := []) rfl trimmed rfl
  simpa using this

instance (t : Text) : Decidable t.IsTrimmed := decidable_of_iff (t.trim = t) trim_eq_self_iff

theorem isTrimmed_cons_concat {c d : CodePoint} (first : c.isBlank = false)
    (last : d.isBlank = false) (t : Text) : IsTrimmed (c :: (t ++ [d])) where
  head := fun _ h => Option.some.inj h ▸ first
  last := fun b h => by
    rw [← List.cons_append, List.getLast?_concat] at h
    exact Option.some.inj h ▸ last

/-- Joined texts are trimmed if the first and the last are, and these are not empty. -/
theorem isTrimmed_join (separator : Text) {pieces : List Text}
    (first : ∀ t, pieces.head? = some t → t ≠ [] ∧ t.IsTrimmed)
    (last : ∀ t, pieces.getLast? = some t → t ≠ [] ∧ t.IsTrimmed) :
    (join separator pieces).IsTrimmed := by
  constructor
  · intro c hc
    cases pieces with
    | nil => cases hc
    | cons t ts =>
      obtain ⟨nonempty, trimmed⟩ := first t rfl
      rw [head?_join separator nonempty] at hc
      exact trimmed.head c hc
  · intro c hc
    cases final : pieces.getLast? with
    | none =>
      rw [List.getLast?_eq_none_iff.1 final] at hc
      cases hc
    | some u =>
    obtain ⟨nonempty, trimmed⟩ := last u final
    obtain ⟨ts, rfl⟩ := List.getLast?_eq_some_iff.1 final
    refine trimmed.last c ?_
    by_cases single : ts = []
    · rwa [single] at hc
    · rwa [join_concat separator single, List.getLast?_append_of_ne_nil _ nonempty] at hc

/-- A text is blank if what is left of it is. -/
theorem isBlank_trim (t : Text) : t.trim.isBlank = t.isBlank := by
  obtain ⟨l, r, whole, left, right, -⟩ := exists_blanks t
  have parts : t.isBlank = (l ++ t.trim ++ r).isBlank := congrArg isBlank whole
  rw [parts, isBlank_append, isBlank_append, left, right, Bool.true_and, Bool.and_true]

end Mailroom.Text
