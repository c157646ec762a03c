import Mailroom.Text.CodePoint

/-!
# Taking texts apart

* `Text.cut?`: what stands before and after the first occurrence of a code point;
* `Text.cutLast?`: the same for the last occurrence;
* `Text.splitOn`, `Text.join`: all pieces between occurrences, and back.
-/

namespace Mailroom.Text

/-- What stands before and after the first occurrence of a code point. -/
def cut? (mark : CodePoint) : Text → Option (Text × Text)
  | [] => none
  | c :: t => if c = mark then some ([], t)
    else (cut? mark t).map fun (before, after) => (c :: before, after)

/-- What stands before and after the last occurrence of a code point. -/
def cutLast? (mark : CodePoint) : Text → Option (Text × Text)
  | [] => none
  | c :: t => match cutLast? mark t with
    | some (before, after) => some (c :: before, after)
    | none => if c = mark then some ([], t) else none

/-- The pieces between the occurrences of a code point; there is always at least one. -/
def splitOn (mark : CodePoint) : Text → List Text
  | [] => [[]]
  | c :: t => match splitOn mark t with
    | [] => [[c]]
    | piece :: pieces => if c = mark then [] :: piece :: pieces else (c :: piece) :: pieces

/-- The pieces with a separator between each two. -/
def join (separator : Text) : List Text → Text
  | [] => []
  | [t] => t
  | t :: u :: ts => t ++ separator ++ join separator (u :: ts)

/-- The first cut loses only the mark. -/
theorem eq_of_cut? {mark : CodePoint} {t before after : Text}
    (h : cut? mark t = some (before, after)) : t = before ++ mark :: after := by
  induction t generalizing before with
  | nil => simp [cut?] at h
  | cons c t ih =>
    by_cases hc : c = mark
    · simp [cut?, hc] at h
      simp [hc, ← h.1, ← h.2]
    · simp [cut?, hc] at h
      obtain ⟨b, hb, rfl⟩ := h
      simp [ih hb]

/-- Nothing before the first cut is the mark. -/
theorem not_mem_of_cut? {mark : CodePoint} {t before after : Text}
    (h : cut? mark t = some (before, after)) : mark ∉ before := by
  induction t generalizing before with
  | nil => simp [cut?] at h
  | cons c t ih =>
    by_cases hc : c = mark
    · simp [cut?, hc] at h
      simp [h.1]
    · simp [cut?, hc] at h
      obtain ⟨b, hb, rfl⟩ := h
      simp [ih hb, Ne.symm hc]

/-- There is no cut exactly when the mark does not occur. -/
theorem cut?_eq_none_iff {mark : CodePoint} {t : Text} : cut? mark t = none ↔ mark ∉ t := by
  induction t with
  | nil => simp [cut?]
  | cons c t ih =>
    by_cases hc : c = mark
    · simp [cut?, hc]
    · simp [cut?, hc, ih, Ne.symm hc]

/-- The last cut loses only the mark. -/
theorem eq_of_cutLast? {mark : CodePoint} {t before after : Text}
    (h : cutLast? mark t = some (before, after)) : t = before ++ mark :: after := by
  induction t generalizing before after with
  | nil => simp [cutLast?] at h
  | cons c t ih =>
    unfold cutLast? at h
    split at h
    · rename_i b a hb
      simp at h
      simp [← h.1, ← h.2, ih hb]
    · split at h
      · rename_i hc
        simp at h
        simp [hc, ← h.1, ← h.2]
      · simp at h

/-- Splitting and joining at one mark gives the text back. -/
theorem join_splitOn (mark : CodePoint) (t : Text) : join [mark] (splitOn mark t) = t := by
  induction t with
  | nil => rfl
  | cons c t ih =>
    unfold splitOn
    split
    · rename_i h
      rw [h] at ih
      simp [join] at ih
      simp [join, ← ih]
    · rename_i piece pieces h
      rw [h] at ih
      split
      · rename_i hc
        simp [join, ih, hc]
      · cases pieces with
        | nil => simpa [join] using ih
        | cons p ps => simpa [join] using ih

end Mailroom.Text
