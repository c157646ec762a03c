import Mathlib.Data.List.Nodup
import Mailroom.Header.Writer
import Mailroom.Proofs.Header.Fields

/-!
# The order in which fields are written

* `Text.before` is a strict linear order;
* `perm_sorted`, `pairwise_sorted`: putting the fields in order loses none of them;
* `sorted_congr`: the written order depends only on what is found under each name.
-/

namespace Mailroom

namespace Text

theorem before_trans {a b c : Text} (hab : before a b = true) (hbc : before b c = true) :
    before a c = true := by
  induction a generalizing b c with
  | nil => cases b <;> cases c <;> simp_all [before]
  | cons x a ih =>
    cases b with
    | nil => simp [before] at hab
    | cons y b =>
      cases c with
      | nil => simp [before] at hbc
      | cons z c =>
        simp only [before] at hab hbc ⊢
        by_cases hxy : x = y
        · subst hxy
          by_cases hxz : x = z
          · subst hxz
            simp only [if_true] at hab hbc ⊢
            exact ih hab hbc
          · simpa [hxz] using hbc
        · by_cases hyz : y = z
          · subst hyz
            simpa [hxy] using hab
          · simp only [hxy, hyz, if_false, decide_eq_true_eq] at hab hbc
            have hxz : x ≠ z := fun h => by subst h; omega
            simp only [hxz, if_false, decide_eq_true_eq]
            omega

theorem before_asymm {a b : Text} (hab : before a b = true) : before b a = false := by
  cases hba : before b a with
  | false => rfl
  | true => simpa [before_irrefl] using before_trans hab hba

theorem before_total {a b : Text} (h : a ≠ b) : before a b = true ∨ before b a = true := by
  induction a generalizing b with
  | nil => cases b <;> simp_all [before]
  | cons x a ih =>
    cases b with
    | nil => simp [before]
    | cons y b =>
      simp only [before]
      by_cases hxy : x = y
      · subst hxy
        simpa using ih (b := b) (by simpa using h)
      · have hval : x.val ≠ y.val := fun e => hxy (CodePoint.ext e)
        simp only [hxy, Ne.symm hxy, if_false, decide_eq_true_eq]
        omega

end Text

namespace Header

theorem perm_insertSorted (f : Field) (fields : List Field) :
    (insertSorted f fields).Perm (f :: fields) := by
  induction fields with
  | nil => exact List.Perm.refl _
  | cons g fields ih =>
    unfold insertSorted
    split
    · exact List.Perm.refl _
    · exact (ih.cons g).trans (List.Perm.swap f g fields)

/-- Putting fields in order loses none of them. -/
theorem perm_sorted (fields : List Field) : (fields.foldr insertSorted []).Perm fields := by
  induction fields with
  | nil => exact List.Perm.refl _
  | cons f fields ih => exact (perm_insertSorted f _).trans (ih.cons f)

/-- The names of the fields increase. -/
def Increasing (fields : List Field) : Prop :=
  fields.Pairwise fun f g => Text.before f.name g.name = true

theorem increasing_insertSorted {f : Field} {fields : List Field} (h : Increasing fields)
    (hf : ∀ g ∈ fields, g.name ≠ f.name) : Increasing (insertSorted f fields) := by
  induction fields with
  | nil => simp [insertSorted, Increasing]
  | cons g fields ih =>
    obtain ⟨hg, htail⟩ := List.pairwise_cons.1 h
    unfold insertSorted
    split
    · next hfg =>
      refine List.pairwise_cons.2 ⟨fun k hk => ?_, h⟩
      rcases List.mem_cons.1 hk with rfl | hk
      · exact hfg
      · exact Text.before_trans hfg (hg k hk)
    · next hfg =>
      refine List.pairwise_cons.2 ⟨fun k hk => ?_, ih htail fun k hk => hf k (by simp [hk])⟩
      rcases List.mem_cons.1 ((perm_insertSorted f fields).mem_iff.1 hk) with rfl | hk
      · exact (Text.before_total (hf g List.mem_cons_self)).resolve_right hfg
      · exact hg k hk

/-- Fields with different names are put in increasing order of their names. -/
theorem increasing_sorted {fields : List Field} (nodup : (fields.map (·.name)).Nodup) :
    Increasing (fields.foldr insertSorted []) := by
  induction fields with
  | nil => exact List.Pairwise.nil
  | cons f fields ih =>
    rw [List.map_cons, List.nodup_cons] at nodup
    refine increasing_insertSorted (ih nodup.2) fun g hg hname => nodup.1 ?_
    rw [← hname]
    exact List.mem_map_of_mem ((perm_sorted fields).mem_iff.1 hg)

/-- Fields that are in order stay as they are. -/
theorem sorted_of_increasing {fields : List Field} (increasing : Increasing fields) :
    fields.foldr insertSorted [] = fields := by
  induction fields with
  | nil => rfl
  | cons f fields ih =>
    obtain ⟨first, others⟩ := List.pairwise_cons.1 increasing
    rw [List.foldr_cons, ih others]
    cases fields with
    | nil => rfl
    | cons g fields => exact if_pos (first g List.mem_cons_self)

/-- The order in which fields are written depends only on what is found under each name. -/
theorem sorted_congr {h k : Header} (nodupH : (h.fields.map (·.name)).Nodup)
    (nodupK : (k.fields.map (·.name)).Nodup)
    (same : ∀ name, lookup? h.fields name = lookup? k.fields name) : h.sorted = k.sorted := by
  -- the fields are the same but for their order, and there is one increasing order of them
  have perm : h.fields.Perm k.fields := by
    refine (List.perm_ext_iff_of_nodup (List.Nodup.of_map _ nodupH)
      (List.Nodup.of_map _ nodupK)).2 fun f => ⟨fun hf => ?_, fun hf => ?_⟩
    · exact mem_of_lookup? ((same f.name).symm.trans (lookup?_of_mem nodupH hf))
    · exact mem_of_lookup? ((same f.name).trans (lookup?_of_mem nodupK hf))
  refine List.Perm.eq_of_pairwise ?_ (increasing_sorted nodupH) (increasing_sorted nodupK)
    ((perm_sorted _).trans (perm.trans (perm_sorted _).symm))
  intro f g _ _ hfg hgf
  rw [Text.before_asymm hfg] at hgf
  cases hgf

theorem write?_congr {h k : Header} (nodupH : (h.fields.map (·.name)).Nodup)
    (nodupK : (k.fields.map (·.name)).Nodup)
    (same : ∀ name, lookup? h.fields name = lookup? k.fields name) : h.write? = k.write? := by
  unfold write? lines
  rw [sorted_congr nodupH nodupK same]

end Header

end Mailroom
