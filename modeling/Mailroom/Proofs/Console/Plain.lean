import Mailroom.Console
import Mailroom.Proofs.Console.Layout
import Mailroom.Proofs.Console.Markup

/-!
# Texts that are printed as they are

* `Console.IsPlain`: a text holds no tags, no emoji, no control characters and no lines that are
  too long;
* `Console.shown_dimmed_iff`: behind a word in a style of its own, these are the texts that are
  printed as they are.
-/

namespace Mailroom

namespace Markup

/-- What stands behind a mark that a beginning does not hold stands behind that beginning. -/
theorem append_eq_append_cons {s u before rest : Text} {c : CodePoint} (h : c ∉ s)
    (whole : s ++ u = before ++ c :: rest) :
    ∃ middle, before = s ++ middle ∧ u = middle ++ c :: rest := by
  rcases List.append_eq_append_iff.1 whole with ⟨middle, rfl, rfl⟩ | ⟨middle, rfl, same⟩
  · exact ⟨middle, rfl, rfl⟩
  · cases middle with
    | nil => exact ⟨[], by simp, by simpa using same.symm⟩
    | cons d middle =>
      obtain ⟨rfl, -⟩ := List.cons.inj same
      exact absurd (List.mem_append_right before List.mem_cons_self) h

theorem hasTag_append_iff {s u : Text} (h : CodePoint.ofChar '[' ∉ s) :
    HasTag (s ++ u) ↔ HasTag u := by
  constructor
  · rintro ⟨before, c, body, after, whole, tag⟩
    rw [List.append_assoc] at whole
    obtain ⟨middle, -, rfl⟩ := append_eq_append_cons h whole
    exact ⟨middle, c, body, after, by simp, tag⟩
  · rintro ⟨before, c, body, after, rfl, tag⟩
    exact ⟨s ++ before, c, body, after, by simp, tag⟩

theorem hasEscape_append_iff {s u : Text} (h : CodePoint.ofChar '\\' ∉ s) :
    HasEscape (s ++ u) ↔ HasEscape u := by
  constructor
  · rintro ⟨before, after, whole⟩
    obtain ⟨middle, -, rfl⟩ := append_eq_append_cons h whole
    exact ⟨middle, after, rfl⟩
  · rintro ⟨before, after, rfl⟩
    exact ⟨s ++ before, after, (List.append_assoc _ _ _).symm⟩

end Markup

theorem Emoji.references_append {s : Text} (h : CodePoint.ofChar ':' ∉ s) (t : Text) :
    references (s ++ t) = references t := by
  induction s with
  | nil => rfl
  | cons c s ih =>
    rw [List.mem_cons, not_or] at h
    rcases expand_cases c (s ++ t) with ⟨r, rest, whole, -⟩ | ⟨-, same⟩
    · exact absurd (List.cons.inj whole).1.symm h.1
    · exact same.trans (ih h.2)

namespace Console

open Markup

/-- The text means nothing to the console, and has room on it. -/
structure IsPlain (t : Text) : Prop where
  noTag : ¬ HasTag t
  noEscape : ¬ HasEscape t
  noEmoji : ∀ r ∈ Emoji.references t, r.isKnown = false
  noControl : ∀ c ∈ t, isDropped c = false
  lines : ∀ line ∈ t.splitOn (CodePoint.ofNat 0x0A),
    CodePoint.ofNat 0x09 ∉ line ∧ Layout.IsWhole width line

theorem shown_eq_self {u : Text} (noEmoji : ∀ r ∈ Emoji.references u, r.isKnown = false)
    (noControl : ∀ c ∈ u, isDropped c = false) : Markup.shown u = u := by
  rw [Markup.shown, Emoji.expand_eq_self_iff.2 noEmoji, List.filter_eq_self]
  exact fun c hc => by simp [noControl c hc]

/-- A reference with a known name costs its text two colons. -/
theorem noEmoji_of_countP_le {u : Text}
    (colons : u.countP (·.val == 0x3A) ≤ (Markup.shown u).countP (·.val == 0x3A)) :
    ∀ r ∈ Emoji.references u, r.isKnown = false := by
  by_contra some_known
  have outside (c : CodePoint) (h : Emoji.isPictorial c.val = true) : (c.val == 0x3A) = false := by
    unfold Emoji.isPictorial at h
    simp only [Bool.or_eq_true, Bool.and_eq_true, decide_eq_true_eq, beq_iff_eq] at h
    simp only [beq_eq_false_iff_ne]
    omega
  have lost := Emoji.countP_expand_lt (t := u) outside (by decide) (by simpa using some_known)
  have kept : (Markup.shown u).countP (·.val == 0x3A) ≤ (Emoji.expand u).countP (·.val == 0x3A) :=
    List.filter_sublist.countP_le
  omega

theorem noControl_of_countP_le {u : Text}
    (controls : u.countP isDropped ≤ (Markup.shown u).countP isDropped) :
    ∀ c ∈ u, isDropped c = false := by
  have none : (Markup.shown u).countP isDropped = 0 := by
    rw [Markup.shown, List.countP_filter, List.countP_eq_zero]
    simp
  simpa [none] using controls

/-- **The texts that are printed as they are** behind a word in a style of its own. -/
theorem shown_dimmed_iff {u : Text} (nonempty : u ≠ []) :
    shown ("[dim](dry-run)[/]" ++ u) = .ok ("(dry-run)" ++ u) ↔ IsPlain ("(dry-run)" ++ u) := by
  have tags : HasTag ("(dry-run)" ++ u) ↔ HasTag u := hasTag_append_iff (by decide)
  have escapes : HasEscape ("(dry-run)" ++ u) ↔ HasEscape u := hasEscape_append_iff (by decide)
  have emoji : Emoji.references ("(dry-run)" ++ u) = Emoji.references u :=
    Emoji.references_append (by decide) u
  have controls : (∀ c ∈ Text.ofString "(dry-run)" ++ u, isDropped c = false) ↔
      ∀ c ∈ u, isDropped c = false := by
    rw [List.forall_mem_append]
    exact and_iff_right (by decide)
  unfold shown
  rw [map_eq_ok_iff]
  constructor
  · rintro ⟨t, rendered, filled⟩
    obtain ⟨out, rfl, marks⟩ := output_of_render rendered
    -- nothing but spaces and ends of lines can have come back
    have kept {p : CodePoint → Bool} (space : p (CodePoint.ofChar ' ') = false)
        (lineEnd : p (CodePoint.ofNat 0x0A) = false) : u.countP p ≤ out.countP p := by
      have less := Layout.countP_fill_le space lineEnd width ("(dry-run)" ++ out)
      rw [filled, List.countP_append, List.countP_append] at less
      omega
    have noTag : ¬ HasTag u := fun tag => by
      have lost := (countP_pieces_le u).2 tag
      have kept := kept (p := isMark) (by decide) (by decide)
      omega
    rw [render_of_not_hasTag nonempty noTag, Except.ok.injEq, List.append_cancel_left_eq] at rendered
    have noEscape : ¬ HasEscape u := fun escape => by
      have lost := countP_unescaped_lt escape
      have shown := countP_shown_le (unescaped u)
      have kept := kept (p := isMark) (by decide) (by decide)
      rw [← rendered] at kept
      omega
    rw [unescaped_of_not_hasEscape noEscape] at rendered
    subst rendered
    have noEmoji := noEmoji_of_countP_le (kept (by decide) (by decide))
    have noControl := noControl_of_countP_le (kept (by decide) (by decide))
    rw [shown_eq_self noEmoji noControl, Layout.fill_eq_self_iff] at filled
    exact ⟨mt tags.1 noTag, mt escapes.1 noEscape, by rwa [emoji], controls.2 noControl, filled⟩
  · rintro ⟨noTag, noEscape, noEmoji, noControl, lines⟩
    rw [emoji] at noEmoji
    refine ⟨_, render_of_not_hasTag nonempty (mt tags.2 noTag), ?_⟩
    rw [unescaped_of_not_hasEscape (mt escapes.2 noEscape),
      shown_eq_self noEmoji (controls.1 noControl)]
    exact Layout.fill_eq_self_iff.2 lines

end Console

end Mailroom
