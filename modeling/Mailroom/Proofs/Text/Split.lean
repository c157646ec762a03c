import Mailroom.Text.Split

/-!
# Pieces between marks

* `Text.cut?_append`: a text is cut at its first mark;
* `Text.cutLast?_eq_some_iff`: behind the last cut there is no mark;
* `Text.splitOn_append`: what stands before the first mark is the first piece;
* `Text.mem_of_mem_splitOn`, `Text.mem_join`: splitting and joining bring nothing in;
* `Text.splitOn_join`: pieces that hold no mark are found again;
* `Text.flatten_sublist_join`, `Text.countP_join`: joining only puts separators in.
-/

namespace Mailroom.Text

variable {mark : CodePoint}

/-! ### Cutting -/

theorem cut?_append {s : Text} (h : mark ∉ s) (t : Text) :
    cut? mark (s ++ mark :: t) = some (s, t) := by
  induction s with
  | nil => simp [cut?]
  | cons c s ih =>
    rw [List.mem_cons, not_or] at h
    rw [List.cons_append, cut?, if_neg (Ne.symm h.1), ih h.2]
    rfl

theorem cutLast?_eq_none_iff {t : Text} : cutLast? mark t = none ↔ mark ∉ t := by
  induction t with
  | nil => simp [cutLast?]
  | cons c t ih =>
    rw [List.mem_cons, not_or, ← ih, cutLast?]
    cases cutLast? mark t with
    | some cut => simp
    | none => by_cases hc : c = mark <;> simp [hc, Ne.symm, eq_comm]

/-- **Behind the last cut** there is no mark, and every such cut is the last. -/
theorem cutLast?_eq_some_iff {t before after : Text} :
    cutLast? mark t = some (before, after) ↔ t = before ++ mark :: after ∧ mark ∉ after := by
  constructor
  · intro h
    refine ⟨eq_of_cutLast? h, ?_⟩
    induction t generalizing before with
    | nil => cases h
    | cons c t ih =>
      rw [cutLast?] at h
      cases rest : cutLast? mark t with
      | some cut =>
        rw [rest] at h
        cases h
        exact ih rest
      | none =>
        rw [rest] at h
        by_cases hc : c = mark
        · rw [if_pos hc] at h
          cases h
          exact cutLast?_eq_none_iff.1 rest
        · rw [if_neg hc] at h
          cases h
  · rintro ⟨rfl, last⟩
    induction before with
    | nil => simp [cutLast?, cutLast?_eq_none_iff.2 last]
    | cons c before ih => rw [List.cons_append, cutLast?, ih]

/-! ### Splitting -/

theorem splitOn_ne_nil (mark : CodePoint) (t : Text) : splitOn mark t ≠ [] := by
  cases t with
  | nil => simp [splitOn]
  | cons c t =>
    rw [splitOn]
    split
    · simp
    · split <;> simp

/-- A code point begins a new piece if it is the mark, and belongs to the first one otherwise. -/
theorem splitOn_cons (mark c : CodePoint) (t : Text) :
    ∃ piece pieces, splitOn mark t = piece :: pieces ∧ splitOn mark (c :: t) =
      if c = mark then [] :: piece :: pieces else (c :: piece) :: pieces := by
  obtain ⟨piece, pieces, h⟩ := List.exists_cons_of_ne_nil (splitOn_ne_nil mark t)
  exact ⟨piece, pieces, h, by rw [splitOn, h]⟩

theorem splitOn_of_not_mem {t : Text} (h : mark ∉ t) : splitOn mark t = [t] := by
  induction t with
  | nil => rfl
  | cons c t ih =>
    rw [List.mem_cons, not_or] at h
    rw [splitOn, ih h.2]
    simp [Ne.symm h.1]

/-- What stands before the first mark is the first piece. -/
theorem splitOn_append {s : Text} (h : mark ∉ s) (t : Text) :
    splitOn mark (s ++ mark :: t) = s :: splitOn mark t := by
  induction s with
  | nil =>
    obtain ⟨piece, pieces, ht, hmark⟩ := splitOn_cons mark mark t
    rw [List.nil_append, hmark, if_pos rfl, ht]
  | cons c s ih =>
    rw [List.mem_cons, not_or] at h
    rw [List.cons_append, splitOn, ih h.2]
    simp [Ne.symm h.1]

theorem mem_of_mem_splitOn {t piece : Text} (h : piece ∈ splitOn mark t) {c : CodePoint}
    (hc : c ∈ piece) : c ∈ t := by
  induction t generalizing piece with
  | nil => simp_all [splitOn]
  | cons d t ih =>
    obtain ⟨first, pieces, ht, hsplit⟩ := splitOn_cons mark d t
    rw [hsplit] at h
    rw [ht] at ih
    rw [List.mem_cons]
    split at h
    · rcases List.mem_cons.1 h with rfl | h
      · cases hc
      · exact .inr (ih h hc)
    · rcases List.mem_cons.1 h with rfl | h
      · exact (List.mem_cons.1 hc).imp_right (ih List.mem_cons_self)
      · exact .inr (ih (List.mem_cons_of_mem first h) hc)

/-- No piece holds the mark. -/
theorem not_mem_of_mem_splitOn {t piece : Text} (h : piece ∈ splitOn mark t) : mark ∉ piece := by
  induction t generalizing piece with
  | nil => simp_all [splitOn]
  | cons c t ih =>
    obtain ⟨first, pieces, ht, hsplit⟩ := splitOn_cons mark c t
    rw [hsplit] at h
    rw [ht] at ih
    by_cases hc : c = mark
    · rw [if_pos hc] at h
      rcases List.mem_cons.1 h with rfl | h
      · simp
      · exact ih h
    · rw [if_neg hc] at h
      rcases List.mem_cons.1 h with rfl | h
      · simp [Ne.symm hc, ih List.mem_cons_self]
      · exact ih (List.mem_cons_of_mem first h)

/-! ### Joining -/

theorem join_concat (separator : Text) {ts : List Text} (nonempty : ts ≠ []) (u : Text) :
    join separator (ts ++ [u]) = join separator ts ++ separator ++ u := by
  induction ts with
  | nil => exact absurd rfl nonempty
  | cons t ts ih =>
    cases ts with
    | nil => rfl
    | cons t' ts =>
      rw [List.cons_append, List.cons_append, join, ← List.cons_append, ih (by simp), join]
      simp only [List.append_assoc]

theorem head?_join (separator : Text) {t : Text} (nonempty : t ≠ []) (ts : List Text) :
    (join separator (t :: ts)).head? = t.head? := by
  obtain ⟨c, t, rfl⟩ := List.exists_cons_of_ne_nil nonempty
  cases ts <;> rfl

theorem mem_join {separator : Text} {pieces : List Text} {c : CodePoint}
    (h : c ∈ join separator pieces) : c ∈ separator ∨ ∃ piece ∈ pieces, c ∈ piece := by
  induction pieces with
  | nil => cases h
  | cons t ts ih =>
    cases ts with
    | nil => exact .inr ⟨t, List.mem_cons_self, h⟩
    | cons u ts =>
      rw [join, List.mem_append, List.mem_append] at h
      rcases h with (h | h) | h
      · exact .inr ⟨t, List.mem_cons_self, h⟩
      · exact .inl h
      · rcases ih h with h | ⟨piece, hp, hc⟩
        · exact .inl h
        · exact .inr ⟨piece, List.mem_cons_of_mem t hp, hc⟩

/-- Joining only puts separators in. -/
theorem flatten_sublist_join (separator : Text) (ts : List Text) :
    ts.flatten.Sublist (join separator ts) := by
  induction ts with
  | nil => exact .slnil
  | cons t ts ih =>
    cases ts with
    | nil => simp [join]
    | cons u ts =>
      rw [List.flatten_cons, join]
      exact (List.sublist_append_left t separator).append ih

/-- Joining with separators that do not count leaves the count as it is. -/
theorem countP_join {p : CodePoint → Bool} {separator : Text}
    (uncounted : separator.countP p = 0) (ts : List Text) :
    (join separator ts).countP p = ts.flatten.countP p := by
  induction ts with
  | nil => rfl
  | cons t ts ih =>
    cases ts with
    | nil => simp [join]
    | cons u ts =>
      rw [join, List.flatten_cons, List.countP_append, List.countP_append, List.countP_append, ih,
        uncounted, Nat.add_zero]

/-- Pieces that hold no mark are found again between the marks that join them. -/
theorem splitOn_join {pieces : List Text} (nonempty : pieces ≠ [])
    (h : ∀ piece ∈ pieces, mark ∉ piece) : splitOn mark (join [mark] pieces) = pieces := by
  induction pieces with
  | nil => exact absurd rfl nonempty
  | cons s pieces ih =>
    rw [List.forall_mem_cons] at h
    cases pieces with
    | nil => exact splitOn_of_not_mem h.1
    | cons u ts =>
      rw [join, List.append_assoc, List.singleton_append, splitOn_append h.1,
        ih (List.cons_ne_nil u ts) h.2]

end Mailroom.Text
