import Mailroom.Text.Blank
import Mathlib.Data.List.Basic
import Mathlib.Data.List.TakeWhile

/-!
# The ends of a text

What is taken from the ends of a text are the code points of some class, blanks for one.

* `Text.EndsOutside`: neither end of a text is of a class;
* `Text.trimWhere_append`: what is left of such a text between code points of the class;
* `Text.exists_trimWhere`: every text is what is left of it, between code points of the class;
* `Text.trimWhere_eq_iff`, `Text.trimWhere_eq_nil_iff`: what is left of a text.
-/

namespace Mailroom.Text

/-- Neither the first nor the last code point is of a class. -/
structure EndsOutside (p : CodePoint → Bool) (t : Text) : Prop where
  head : ∀ c, t.head? = some c → p c = false
  last : ∀ c, t.getLast? = some c → p c = false

variable {p : CodePoint → Bool}

/-- Code points of the class at the beginning are passed over. -/
theorem dropWhile_append_of_forall {l : Text} (left : ∀ c ∈ l, p c = true) (t : Text) :
    (l ++ t).dropWhile p = t.dropWhile p := by
  induction l with
  | nil => rfl
  | cons c l ih =>
    rw [List.forall_mem_cons] at left
    rw [List.cons_append, List.dropWhile_cons_of_pos left.1, ih left.2]

theorem dropWhile_eq_self_of_head {t : Text} (h : ∀ c, t.head? = some c → p c = false) :
    t.dropWhile p = t := by
  cases t with
  | nil => rfl
  | cons c t => exact List.dropWhile_cons_of_neg (by simp [h c rfl])

/-- Code points of the class around a text that does not end in any are what is taken away. -/
theorem trimWhere_append {l t r : Text} (left : ∀ c ∈ l, p c = true) (ends : t.EndsOutside p)
    (right : ∀ c ∈ r, p c = true) : trimWhere p (l ++ t ++ r) = t := by
  have right' : ∀ c ∈ r.reverse, p c = true := fun c hc => right c (List.mem_reverse.1 hc)
  unfold trimWhere trimRightWhere trimLeftWhere
  rw [List.append_assoc, dropWhile_append_of_forall left]
  cases t with
  | nil => simp [List.dropWhile_eq_nil_iff.2 right]
  | cons c t =>
    have first : (c :: t ++ r).dropWhile p = c :: t ++ r :=
      dropWhile_eq_self_of_head fun d hd => ends.head d hd
    rw [first, List.reverse_append, dropWhile_append_of_forall right',
      dropWhile_eq_self_of_head fun d hd => ends.last d (by rwa [← List.head?_reverse]),
      List.reverse_reverse]

/-- **Every text is what is left of it**, between code points of the class. -/
theorem exists_trimWhere (p : CodePoint → Bool) (t : Text) :
    ∃ l r, t = l ++ trimWhere p t ++ r ∧ (∀ c ∈ l, p c = true) ∧ (∀ c ∈ r, p c = true) ∧
      (trimWhere p t).EndsOutside p := by
  let u := t.dropWhile p
  have left : t = t.takeWhile p ++ u := List.takeWhile_append_dropWhile.symm
  have right : u = trimWhere p t ++ (u.reverse.takeWhile p).reverse := by
    show u = (u.reverse.dropWhile p).reverse ++ _
    rw [← List.reverse_append, List.takeWhile_append_dropWhile, List.reverse_reverse]
  refine ⟨t.takeWhile p, (u.reverse.takeWhile p).reverse, ?_, ?_, ?_, ?_, ?_⟩
  · rw [List.append_assoc, ← right]
    exact left
  · exact fun c hc => List.all_eq_true.1 List.all_takeWhile c hc
  · exact fun c hc => List.all_eq_true.1 List.all_takeWhile c (List.mem_reverse.1 hc)
  · intro c hc
    have first : u.head? = some c := by
      rw [right, List.head?_append, hc]
      rfl
    have := List.head?_dropWhile_not p t
    rw [show List.dropWhile p t = u from rfl, first] at this
    simpa using this
  · intro c hc
    have := List.head?_dropWhile_not p u.reverse
    rw [← List.getLast?_reverse, show (List.dropWhile p u.reverse).reverse = trimWhere p t
      from rfl, hc] at this
    simpa using this

/-- What is left of a text is the one part between code points of the class that does not end in
any. -/
theorem trimWhere_eq_iff {t s : Text} :
    trimWhere p t = s ↔ s.EndsOutside p ∧
      ∃ l r, t = l ++ s ++ r ∧ (∀ c ∈ l, p c = true) ∧ ∀ c ∈ r, p c = true := by
  constructor
  · rintro rfl
    obtain ⟨l, r, whole, left, right, ends⟩ := exists_trimWhere p t
    exact ⟨ends, l, r, whole, left, right⟩
  · rintro ⟨ends, l, r, rfl, left, right⟩
    exact trimWhere_append left ends right

/-- Nothing is left exactly of what is all of the class. -/
theorem trimWhere_eq_nil_iff {t : Text} : trimWhere p t = [] ↔ ∀ c ∈ t, p c = true := by
  rw [trimWhere_eq_iff]
  constructor
  · rintro ⟨-, l, r, rfl, left, right⟩
    simpa [or_imp, forall_and] using ⟨left, right⟩
  · exact fun all => ⟨⟨nofun, nofun⟩, t, [], by simp, all, nofun⟩

/-- A text that holds no code point of the class is left as it is. -/
theorem endsOutside_of_forall {t : Text} (h : ∀ c ∈ t, p c = false) : t.EndsOutside p where
  head := fun c hc => h c (List.mem_of_head? hc)
  last := fun c hc => h c (List.mem_of_getLast? hc)

end Mailroom.Text
