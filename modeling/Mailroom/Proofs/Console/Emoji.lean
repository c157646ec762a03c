import Mailroom.Console.Emoji
import Mathlib.Data.List.Count

/-!
# Texts whose emoji stay away

A text is read from left to right, one reference to an emoji after the other. Those with known names
are lost, and nothing comes for them but code points of pictures.

* `Emoji.references`: the references of a text, in order;
* `Emoji.expand_cases`: what a text begins with, and what becomes of that;
* `Emoji.countP_expand_le`: code points that are in no picture do not get more;
* `Emoji.expand_eq_self_iff`: the texts that are left as they are.
-/

namespace Mailroom.Emoji

/-! ### Pictures -/

theorem val_of_ofNat? {n : Nat} {c : CodePoint} (h : CodePoint.ofNat? n = some c) : c.val = n := by
  unfold CodePoint.ofNat? at h
  split at h <;> cases h
  rfl

theorem isPictorial_of_pictorial? {number : Text} {c : CodePoint} (h : pictorial? number = some c) :
    isPictorial c.val = true := by
  obtain ⟨n, hn, hc⟩ := Option.bind_eq_some_iff.1 h
  rw [val_of_ofNat? hc]
  exact (Option.filter_eq_some_iff.1 hn).2

theorem forall_of_mapM_eq_some {α β : Type} {f : α → Option β} {P : β → Prop}
    (each : ∀ a b, f a = some b → P b) {as : List α} {bs : List β} (h : as.mapM f = some bs) :
    ∀ b ∈ bs, P b := by
  induction as generalizing bs with
  | nil =>
    cases h
    exact nofun
  | cons a as ih =>
    rw [List.mapM_cons] at h
    simp only [bind, pure, Option.bind_eq_some_iff, Option.some.injEq] at h
    obtain ⟨b, hb, bs', hbs, rfl⟩ := h
    exact List.forall_mem_cons.2 ⟨each a b hb, ih hbs⟩

/-- An emoji is made of code points of pictures. -/
theorem isPictorial_of_find? {name emoji : Text} (h : find? name = some emoji) {c : CodePoint}
    (hc : c ∈ emoji) : isPictorial c.val = true := by
  obtain ⟨line, -, h⟩ := List.exists_of_findSome?_eq_some h
  obtain ⟨entry, -, h⟩ := List.exists_of_findSome?_eq_some h
  unfold entryOf? at h
  split at h
  · cases h
  · split at h
    · exact forall_of_mapM_eq_some (fun _ _ => isPictorial_of_pictorial?) h c hc
    · cases h

/-! ### References -/

/-- The reference stands for an emoji. -/
def Reference.isKnown (r : Reference) : Bool := (find? r.name.lower).isSome

/-- The references of a text, from behind some code points on. -/
def referencesFrom : Nat → Text → List Reference
  | _, [] => []
  | skipped + 1, _ :: t => referencesFrom skipped t
  | 0, c :: t =>
    match if c = CodePoint.ofChar ':' then Reference.before? t else none with
    | some r => r :: referencesFrom r.tail.length t
    | none => referencesFrom 0 t

/-- The references of a text, in order; no two share a colon. -/
def references (t : Text) : List Reference := referencesFrom 0 t

theorem expandFrom_append (s t : Text) : expandFrom s.length (s ++ t) = expand t := by
  induction s with
  | nil => rfl
  | cons c s ih => exact ih

theorem referencesFrom_append (s t : Text) : referencesFrom s.length (s ++ t) = references t := by
  induction s with
  | nil => rfl
  | cons c s ih => exact ih

/-- A text begins with a reference, which is replaced, or with a code point that stays. -/
theorem expand_cases (c : CodePoint) (t : Text) :
    (∃ r rest, c :: t = CodePoint.ofChar ':' :: r.tail ++ rest ∧
      expand (c :: t) = r.shown ++ expand rest ∧ references (c :: t) = r :: references rest) ∨
    (expand (c :: t) = c :: expand t ∧ references (c :: t) = references t) := by
  cases found : (if c = CodePoint.ofChar ':' then Reference.before? t else none) with
  | none =>
    refine .inr ⟨?_, ?_⟩
    · rw [expand, expandFrom, found]
      rfl
    · rw [references, referencesFrom, found]
      rfl
  | some r =>
    by_cases colon : c = CodePoint.ofChar ':'
    · have before := found
      rw [if_pos colon] at before
      obtain ⟨rest, rfl⟩ := Reference.tail_isPrefix_of_before? before
      refine .inl ⟨r, rest, by rw [colon]; rfl, ?_, ?_⟩
      · rw [expand, expandFrom, found]
        exact congrArg (r.shown ++ ·) (expandFrom_append r.tail rest)
      · rw [references, referencesFrom, found]
        exact congrArg (r :: ·) (referencesFrom_append r.tail rest)
    · rw [if_neg colon] at found
      cases found

/-- A reference with a known name is shown as the emoji, any other as it is written. -/
theorem Reference.shown_cases (r : Reference) :
    (r.isKnown = true ∧ ∃ emoji, find? r.name.lower = some emoji ∧
      r.shown = emoji ++ r.look.selector) ∨
    (r.isKnown = false ∧ r.shown = CodePoint.ofChar ':' :: r.tail) := by
  unfold isKnown shown
  generalize find? r.name.lower = found
  cases found with
  | some emoji => exact .inl ⟨rfl, emoji, rfl, rfl⟩
  | none => exact .inr ⟨rfl, rfl⟩

theorem Reference.shown_of_unknown {r : Reference} (unknown : r.isKnown = false) :
    r.shown = CodePoint.ofChar ':' :: r.tail := by
  rcases r.shown_cases with ⟨known, -⟩ | ⟨-, shown⟩
  · cases unknown.symm.trans known
  · exact shown

section

variable {p : CodePoint → Bool} (outside : ∀ c, isPictorial c.val = true → p c = false)

include outside in
theorem Reference.countP_shown_of_known {r : Reference} (known : r.isKnown = true) :
    r.shown.countP p = 0 := by
  have selector : ∀ c ∈ r.look.selector, p c = false := by
    cases r.look with
    | plain => exact nofun
    | text => exact List.forall_mem_singleton.2 (outside _ (by decide))
    | picture => exact List.forall_mem_singleton.2 (outside _ (by decide))
  rcases r.shown_cases with ⟨-, emoji, found, shown⟩ | ⟨unknown, -⟩
  · rw [shown, List.countP_eq_zero]
    simp only [List.forall_mem_append, Bool.not_eq_true]
    exact ⟨fun c hc => outside c (isPictorial_of_find? found hc), selector⟩
  · cases unknown.symm.trans known

/-- The reading of a text, one reference or one code point after the other. -/
theorem expand_induction {P : Text → Prop} (nil : P [])
    (reference : ∀ r rest, expand (CodePoint.ofChar ':' :: r.tail ++ rest) = r.shown ++ expand rest →
      references (CodePoint.ofChar ':' :: r.tail ++ rest) = r :: references rest → P rest →
      P (CodePoint.ofChar ':' :: r.tail ++ rest))
    (plain : ∀ c t, expand (c :: t) = c :: expand t → references (c :: t) = references t → P t →
      P (c :: t)) (t : Text) : P t := by
  induction h : t.length using Nat.strongRecOn generalizing t with
  | ind n ih =>
    cases t with
    | nil => exact nil
    | cons c t =>
      rcases expand_cases c t with ⟨r, rest, whole, he, hr⟩ | ⟨he, hr⟩
      · rw [whole] at he hr ⊢
        have shorter : rest.length < n := by
          rw [← h, whole]
          simp only [List.length_append, List.length_cons]
          omega
        exact reference r rest he hr (ih rest.length shorter rest rfl)
      · exact plain c t he hr (ih t.length (by simp [← h]) t rfl)

include outside in
/-- Code points that are in no picture do not get more. -/
theorem countP_expand_le (t : Text) : (expand t).countP p ≤ t.countP p := by
  induction t using expand_induction with
  | nil => exact Nat.le_refl _
  | reference r rest he _ ih =>
    rw [he, List.countP_append, List.countP_append]
    cases known : r.isKnown with
    | true =>
      rw [Reference.countP_shown_of_known outside known]
      omega
    | false =>
      rw [Reference.shown_of_unknown known]
      omega
  | plain c t he _ ih =>
    rw [he, List.countP_cons, List.countP_cons]
    omega

include outside in
/-- A reference with a known name takes its colons away. -/
theorem countP_expand_lt (colon : p (CodePoint.ofChar ':') = true) {t : Text}
    (some_known : ∃ r ∈ references t, r.isKnown = true) : (expand t).countP p < t.countP p := by
  induction t using expand_induction with
  | nil =>
    obtain ⟨r, ⟨⟩, -⟩ := some_known
  | reference r rest he hr ih =>
    rw [he, List.countP_append, List.countP_append]
    have others := countP_expand_le outside rest
    cases known : r.isKnown with
    | true =>
      rw [Reference.countP_shown_of_known outside known, List.countP_cons_of_pos colon]
      omega
    | false =>
      have later : ∃ s ∈ references rest, s.isKnown = true := by
        rw [hr] at some_known
        simpa [known] using some_known
      rw [Reference.shown_of_unknown known]
      have := ih later
      omega
  | plain c t he hr ih =>
    rw [hr] at some_known
    rw [he, List.countP_cons, List.countP_cons]
    have := ih some_known
    omega

end

/-- **The texts that are left as they are** have no reference with a known name. -/
theorem expand_eq_self_iff {t : Text} :
    expand t = t ↔ ∀ r ∈ references t, r.isKnown = false := by
  constructor
  · intro same
    by_contra some_known
    have lost := countP_expand_lt (p := fun c => c.val == 0x3A)
      (fun c pictorial => by
        unfold isPictorial at pictorial
        simp only [Bool.or_eq_true, Bool.and_eq_true, decide_eq_true_eq, beq_iff_eq] at pictorial
        simp only [beq_eq_false_iff_ne]
        omega) (by decide) (t := t) (by simpa using some_known)
    rw [same] at lost
    exact Nat.lt_irrefl _ lost
  · intro unknown
    induction t using expand_induction with
    | nil => rfl
    | reference r rest he hr ih =>
      rw [hr, List.forall_mem_cons] at unknown
      rw [he, Reference.shown_of_unknown unknown.1, ih unknown.2]
    | plain c t he hr ih =>
      rw [hr] at unknown
      rw [he, ih unknown]

end Mailroom.Emoji
