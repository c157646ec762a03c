import Mailroom.Console.Cells

/-!
# Columns of texts and of their parts

* `Text.columnsAfter_cons`, `Text.columns_induction`: how the columns of a text are counted;
* `Text.columns_le_append`: what follows takes no columns away;
* `Text.columns_add_le_append`: behind anything but a joiner, what follows takes up all of its own;
* `Text.columnsOf`, `Text.columnsOf_pictures`: the parts of a text take up its columns, unless it
  begins with a joiner.
-/

namespace Mailroom.Text

/-- A text does not begin with a joiner. -/
def StartsFree (t : Text) : Prop := ∀ c, t.head? = some c → c.isJoiner = false

/-- A text does not end in a joiner. -/
def EndsFree (t : Text) : Prop := ∀ c, t.getLast? = some c → c.isJoiner = false

theorem EndsFree.tail {c : CodePoint} {t : Text} (h : EndsFree (c :: t)) : EndsFree t := by
  cases t with
  | nil => exact nofun
  | cons d t => exact fun e he => h e (by simpa using he)

/-! ### Code point by code point -/

section

variable {c : CodePoint} (last : Option CodePoint) (t : Text)

theorem columnsAfter_cons (c : CodePoint) : columnsAfter last (c :: t) =
    if c.isJoiner then columnsAfter last t.tail
    else if c.isPictureSelector then last.elim 0 CodePoint.widening + columnsAfter none t
    else c.columns + columnsAfter (if c.columns = 0 then last else some c) t := by
  cases t <;> rfl

theorem columnsAfter_joiner (joiner : c.isJoiner = true) :
    columnsAfter last (c :: t) = columnsAfter last t.tail := by
  rw [columnsAfter_cons, if_pos joiner]

theorem columnsAfter_selector (joiner : ¬ c.isJoiner = true)
    (selector : c.isPictureSelector = true) :
    columnsAfter last (c :: t) = last.elim 0 CodePoint.widening + columnsAfter none t := by
  rw [columnsAfter_cons, if_neg joiner, if_pos selector]

theorem columnsAfter_plain (joiner : ¬ c.isJoiner = true)
    (selector : ¬ c.isPictureSelector = true) :
    columnsAfter last (c :: t) =
      c.columns + columnsAfter (if c.columns = 0 then last else some c) t := by
  rw [columnsAfter_cons, if_neg joiner, if_neg selector]

end

/-- A text is gone through as its columns are counted: a joiner together with the code point behind
it, and all else one by one. -/
theorem columns_induction {motive : Option CodePoint → Text → Prop}
    (nil : ∀ last, motive last [])
    (lone : ∀ last c, c.isJoiner = true → motive last [c])
    (joined : ∀ last c d t, c.isJoiner = true → motive last t → motive last (c :: d :: t))
    (selector : ∀ last c t, ¬ c.isJoiner = true → c.isPictureSelector = true → motive none t →
      motive last (c :: t))
    (plain : ∀ last c t, ¬ c.isJoiner = true → ¬ c.isPictureSelector = true →
      motive (if c.columns = 0 then last else some c) t → motive last (c :: t))
    (last : Option CodePoint) (t : Text) : motive last t := by
  fun_induction columnsAfter last t with
  | case1 last => exact nil last
  | case2 last c joiner => exact lone last c joiner
  | case3 last c joiner d t ih => exact joined last c d t joiner ih
  | case4 last c t joiner isSelector ih => exact selector last c t joiner isSelector ih
  | case5 last c t joiner noSelector ih => exact plain last c t joiner noSelector ih

/-- A character that can be widened only adds columns, and at most as many as it can be widened
by. -/
theorem columnsAfter_bounds (last : Option CodePoint) (t : Text) :
    columnsAfter none t ≤ columnsAfter last t ∧
      columnsAfter last t ≤ last.elim 0 CodePoint.widening + columnsAfter none t := by
  induction last, t using columns_induction with
  | nil last => exact ⟨Nat.le_refl _, Nat.zero_le _⟩
  | lone last c joiner =>
    rw [columnsAfter_joiner last _ joiner, columnsAfter_joiner none _ joiner]
    exact ⟨Nat.le_refl _, Nat.zero_le _⟩
  | joined last c d t joiner ih =>
    rwa [columnsAfter_joiner last _ joiner, columnsAfter_joiner none _ joiner]
  | selector last c t joiner selector ih =>
    rw [columnsAfter_selector last t joiner selector, columnsAfter_selector none t joiner selector,
      Option.elim_none]
    omega
  | plain last c t joiner selector ih =>
    rw [columnsAfter_plain last t joiner selector, columnsAfter_plain none t joiner selector]
    by_cases flat : c.columns = 0
    · simpa [flat] using ih
    · simp [flat]

/-- A character that is not widened adds none. -/
theorem columnsAfter_of_unwidened {last : Option CodePoint}
    (unwidened : last.elim 0 CodePoint.widening = 0) (t : Text) :
    columnsAfter last t = columnsAfter none t := by
  have bounds := columnsAfter_bounds last t
  omega

theorem columnsAfter_le_append (last : Option CodePoint) (s t : Text) :
    columnsAfter last s ≤ columnsAfter last (s ++ t) := by
  induction last, s using columns_induction with
  | nil => exact Nat.zero_le _
  | lone last c joiner =>
    rw [columnsAfter_joiner last [] joiner]
    exact Nat.zero_le _
  | joined last c d s joiner ih =>
    rwa [List.cons_append, columnsAfter_joiner last _ joiner, columnsAfter_joiner last _ joiner]
  | selector last c s joiner selector ih =>
    rw [List.cons_append, columnsAfter_selector last _ joiner selector,
      columnsAfter_selector last _ joiner selector]
    omega
  | plain last c s joiner selector ih =>
    rw [List.cons_append, columnsAfter_plain last _ joiner selector,
      columnsAfter_plain last _ joiner selector]
    omega

/-- What follows takes no columns away. -/
theorem columns_le_append (s t : Text) : columns s ≤ columns (s ++ t) :=
  columnsAfter_le_append none s t

theorem columnsAfter_add_le_append (last : Option CodePoint) {s : Text} (free : s.EndsFree)
    (t : Text) : columnsAfter last s + columns t ≤ columnsAfter last (s ++ t) := by
  induction last, s using columns_induction with
  | nil last =>
    rw [columnsAfter, Nat.zero_add]
    exact (columnsAfter_bounds last t).1
  | lone last c joiner => cases joiner.symm.trans (free c rfl)
  | joined last c d s joiner ih =>
    rw [List.cons_append, columnsAfter_joiner last _ joiner, columnsAfter_joiner last _ joiner]
    exact ih free.tail.tail
  | selector last c s joiner selector ih =>
    have := ih free.tail
    rw [List.cons_append, columnsAfter_selector last _ joiner selector,
      columnsAfter_selector last _ joiner selector]
    omega
  | plain last c s joiner selector ih =>
    have := ih free.tail
    rw [List.cons_append, columnsAfter_plain last _ joiner selector,
      columnsAfter_plain last _ joiner selector]
    omega

/-- Behind anything but a joiner, what follows takes up all of its own columns. -/
theorem columns_add_le_append {s : Text} (free : s.EndsFree) (t : Text) :
    columns s + columns t ≤ columns (s ++ t) := columnsAfter_add_le_append none free t

/-! ### Parts -/

/-- The columns that some parts take up. -/
def columnsOf : List Picture → Nat
  | [] => 0
  | picture :: pictures => picture.columns + columnsOf pictures

@[simp] theorem columnsOf_cons (picture : Picture) (pictures : List Picture) :
    columnsOf (picture :: pictures) = picture.columns + columnsOf pictures := rfl

theorem columnsOf_picturesFrom (open_ : Picture) (last : Option CodePoint) (t : Text) :
    columnsOf (picturesFrom open_ last t) = open_.columns + columnsAfter last t := by
  fun_induction picturesFrom open_ last t with
  | case1 => rfl
  | case2 open_ last c joiner =>
    rw [columnsAfter_joiner last [] joiner]
    rfl
  | case3 open_ last c joiner d t ih => rw [ih, columnsAfter_joiner last _ joiner, List.tail_cons]
  | case4 open_ last c t joiner selector more ih =>
    rw [ih, columnsAfter_selector last t joiner selector]
    have same : columnsAfter (if more = 0 then last else none) t = columnsAfter none t := by
      split
      · next unwidened => exact columnsAfter_of_unwidened unwidened t
      · rfl
    rw [same]
    exact Nat.add_assoc _ _ _
  | case5 open_ last c t joiner selector flat ih =>
    rw [ih, columnsAfter_plain last t joiner selector, if_pos flat, flat, Nat.zero_add]
  | case6 open_ last c t joiner selector flat ih =>
    rw [columnsOf_cons, ih, columnsAfter_plain last t joiner selector, if_neg flat]

theorem columns_of_selector {c : CodePoint} (selector : c.isPictureSelector = true) :
    c.columns = 0 := by
  have same : c = CodePoint.ofNat 0xFE0F := CodePoint.ext (beq_iff_eq.1 selector)
  rw [same]
  decide +kernel

/-- **The parts of a text take up its columns**, unless it begins with a joiner. -/
theorem columnsOf_pictures {t : Text} (free : t.StartsFree) : columnsOf t.pictures = t.columns := by
  cases t with
  | nil => rfl
  | cons c t =>
    have joiner : ¬ c.isJoiner = true := by simp [free c rfl]
    rw [pictures, columnsOf_picturesFrom, columns]
    by_cases selector : c.isPictureSelector = true
    · rw [columnsAfter_selector none t joiner selector, columns_of_selector selector]
      rfl
    · rw [columnsAfter_plain none t joiner selector]

/-- A part is not empty, and takes up the columns of its code point if there is only one. -/
structure Picture.IsPart (picture : Picture) : Prop where
  nonempty : picture.text ≠ []
  single : ∀ c, picture.text = [c] → picture.columns = c.columns

theorem Picture.isPart_single (c : CodePoint) : Picture.IsPart ⟨[c], c.columns⟩ where
  nonempty := List.cons_ne_nil _ _
  single d hd := by rw [(List.cons.inj hd).1]

/-- A part with something behind its code point has more than one. -/
theorem Picture.IsPart.append {picture : Picture} (h : picture.IsPart) {s : Text}
    (nonempty : s ≠ []) (columns : Nat) : Picture.IsPart ⟨picture.text ++ s, columns⟩ where
  nonempty := List.append_ne_nil_of_left_ne_nil h.nonempty s
  single c hc := by
    obtain ⟨d, rest, hd⟩ := List.exists_cons_of_ne_nil h.nonempty
    rw [hd] at hc
    exact absurd (List.append_eq_nil_iff.1 (List.cons.inj hc).2).2 nonempty

theorem isPart_of_mem_picturesFrom {open_ : Picture} (isPart : open_.IsPart)
    (last : Option CodePoint) (t : Text) :
    ∀ picture ∈ picturesFrom open_ last t, picture.IsPart := by
  fun_induction picturesFrom open_ last t with
  | case1 => exact List.forall_mem_singleton.2 isPart
  | case2 => exact List.forall_mem_singleton.2 (isPart.append (List.cons_ne_nil _ _) _)
  | case3 _ _ _ _ _ _ ih => exact ih (isPart.append (List.cons_ne_nil _ _) _)
  | case4 _ _ _ _ _ _ _ ih => exact ih (isPart.append (List.cons_ne_nil _ _) _)
  | case5 _ _ _ _ _ _ _ ih => exact ih (isPart.append (List.cons_ne_nil _ _) _)
  | case6 _ _ c _ _ _ _ ih =>
    exact List.forall_mem_cons.2 ⟨isPart, ih (Picture.isPart_single c)⟩

theorem isPart_of_mem_pictures (t : Text) : ∀ picture ∈ t.pictures, picture.IsPart := by
  cases t with
  | nil => exact nofun
  | cons c t => exact isPart_of_mem_picturesFrom (Picture.isPart_single c) _ t

end Mailroom.Text
