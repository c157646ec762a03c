import Mailroom.Header.Reader
import Mailroom.Proofs.Perform
import Mailroom.Proofs.Text.Case

/-!
# Headers without stray breaks

* `Header.IsClean`: every name is one, and the values of some fields have no break;
* `isClean_replaceValues`, `isClean_gather`, …: the changes keep it so;
* `Header.isClean_parse`: a header that is read from lines is clean throughout.
-/

namespace Mailroom

namespace Text

theorem IsUnbroken.trimWhere {t : Text} (h : t.IsUnbroken) (p : CodePoint → Bool) :
    (trimWhere p t).IsUnbroken := by
  intro c hc
  have hc := List.mem_reverse.1 hc
  have hc := List.mem_reverse.1 ((List.dropWhile_sublist p).subset hc)
  exact h c ((List.dropWhile_sublist p).subset hc)

theorem IsUnbroken.trim {t : Text} (h : t.IsUnbroken) : t.trim.IsUnbroken := h.trimWhere _

end Text

namespace Header

/-- Every name of some fields is one, and the values of those that a condition holds of have no
break. -/
structure IsClean (shown : Text → Prop) (fields : List Field) : Prop where
  names : ∀ f ∈ fields, f.name.IsName
  values : ∀ f ∈ fields, shown f.name → ∀ value ∈ f.values, value.IsUnbroken

variable {shown : Text → Prop} {fields : List Field}

theorem isClean_nil : IsClean shown [] :=
  ⟨fun _ h => (by cases h), fun _ h => (by cases h)⟩

theorem isClean_cons {f : Field} :
    IsClean shown (f :: fields) ↔
      (f.name.IsName ∧ (shown f.name → ∀ value ∈ f.values, value.IsUnbroken)) ∧
        IsClean shown fields := by
  constructor
  · rintro ⟨names, values⟩
    rw [List.forall_mem_cons] at names values
    exact ⟨⟨names.1, values.1⟩, names.2, values.2⟩
  · rintro ⟨⟨name, value⟩, names, values⟩
    exact ⟨List.forall_mem_cons.2 ⟨name, names⟩, List.forall_mem_cons.2 ⟨value, values⟩⟩

theorem IsClean.mono {shown' : Text → Prop} (h : IsClean shown fields)
    (sub : ∀ name, shown' name → shown name) : IsClean shown' fields :=
  ⟨h.names, fun f hf hname => h.values f hf (sub f.name hname)⟩

theorem isClean_replaceValues (h : IsClean shown fields) {key value : Text} (name : key.IsName)
    (unbroken : shown key → value.IsUnbroken) :
    IsClean shown (replaceValues key value fields) := by
  refine ⟨fun f hf => ?_, fun f hf hshown v hv => ?_⟩
  all_goals rcases mem_replaceValues hf with rfl | hf
  · exact name
  · exact h.names f hf
  · rw [List.mem_singleton.1 hv]
    exact unbroken hshown
  · exact h.values f hf hshown v hv

theorem isClean_appendValues (h : IsClean shown fields) {key first : Text} {more : List Text}
    (name : key.IsName) (unbroken : shown key → ∀ value ∈ first :: more, value.IsUnbroken) :
    IsClean shown (appendValues key first more fields) := by
  induction fields with
  | nil => exact isClean_cons.2 ⟨⟨name, unbroken⟩, isClean_nil⟩
  | cons f fields ih =>
    rw [isClean_cons] at h
    unfold appendValues
    split
    · next same =>
      refine isClean_cons.2 ⟨⟨h.1.1, fun hf value hvalue => ?_⟩, h.2⟩
      rcases List.mem_append.1 (show value ∈ f.values ++ first :: more from hvalue) with hv | hv
      · exact h.1.2 hf value hv
      · exact unbroken (same ▸ hf) value hv
    · exact isClean_cons.2 ⟨h.1, ih h.2⟩

/-- Entries with clean names and values are put together as clean fields. -/
theorem isClean_gather {entries : List (Text × List Text)}
    (names : ∀ entry ∈ entries, Text.IsName entry.1)
    (values : ∀ entry ∈ entries, shown (FieldName.canonical entry.1) →
      ∀ value ∈ entry.2, Text.IsUnbroken value) : IsClean shown (gather entries) :=
  gather_induction isClean_nil fun _ _ _ _ given clean =>
    isClean_appendValues clean (FieldName.isName_canonical (names _ given)) (values _ given)

theorem IsClean.clone {h : Header} (clean : IsClean shown h.fields)
    (hidden : ∀ name, shown (FieldName.canonical name) → shown name) :
    IsClean shown h.clone.fields := by
  refine isClean_gather (fun entry hentry => ?_) fun entry hentry hshown => ?_
  all_goals obtain ⟨f, hf, rfl⟩ := List.mem_map.1 hentry
  · exact clean.names f hf
  · exact clean.values f hf (hidden f.name hshown)

/-- The first value of a field that a condition holds of has no break. -/
theorem IsClean.first {h : Header} (clean : IsClean shown h.fields) {field : Text}
    (hfield : shown (FieldName.canonical field)) : (h.first field).IsUnbroken := by
  unfold Header.first find?
  cases found : lookup? h.fields (FieldName.canonical field) with
  | none => exact fun c hc => (by cases hc)
  | some f =>
    have name := name_of_lookup? found
    exact clean.values f (mem_of_lookup? found) (by rwa [name]) f.first List.mem_cons_self

/-! ### Reading -/

/-- A line without a break begins a field with a name and a value without one. -/
theorem isClean_splitLine {line name value : Text} (unbroken : line.IsUnbroken)
    (e : splitLine line = .ok (name, value)) : name.IsName ∧ value.IsUnbroken := by
  unfold splitLine at e
  split at e
  · next before rest cut =>
    split at e
    · cases e
    · next proper =>
      cases e
      have whole := Text.eq_of_cut? cut
      rw [whole] at unbroken
      have hrest : Text.IsUnbroken rest := fun c hc => unbroken c (by simp [hc])
      refine ⟨fun c hc => ?_, hrest.trim⟩
      simp only [Bool.or_eq_true, not_or, List.any_eq_true, not_exists, not_and,
        beq_iff_eq] at proper
      have colon : c ≠ CodePoint.ofChar ':' := fun h => Text.not_mem_of_cut? cut (h ▸ hc)
      exact ⟨fun h => colon (CodePoint.ext h), (proper.2 c hc).1, (proper.2 c hc).2,
        unbroken c (by simp [hc])⟩
  · cases e

theorem isClean_unfoldLines {lines : List Text} (unbroken : ∀ line ∈ lines, Text.IsUnbroken line)
    {pending : Option (Text × Text)}
    (clean : ∀ entry ∈ pending, Text.IsName entry.1 ∧ Text.IsUnbroken entry.2)
    {entries : List (Text × Text)} (e : unfoldLines pending lines = .ok entries) :
    ∀ entry ∈ entries, Text.IsName entry.1 ∧ Text.IsUnbroken entry.2 := by
  induction lines generalizing pending entries with
  | nil =>
    cases e
    intro entry hentry
    exact clean entry (by simpa using hentry)
  | cons line lines ih =>
    rw [List.forall_mem_cons] at unbroken
    unfold unfoldLines at e
    split at e
    · -- a line that goes on is put behind the value that is still open, after a space
      cases pending with
      | none => cases e
      | some entry =>
        obtain ⟨name, value⟩ := entry
        obtain ⟨hname, hvalue⟩ := clean (name, value) rfl
        refine ih unbroken.2 (fun entry hentry => ?_) e
        obtain rfl := Option.mem_some.1 hentry
        refine ⟨hname, ?_⟩
        simp only
        split
        · exact unbroken.1.trim
        · refine Text.isUnbroken_append.2 ⟨Text.isUnbroken_append.2 ⟨hvalue, by decide⟩, ?_⟩
          exact unbroken.1.trim
    · obtain ⟨⟨name, value⟩, hsplit, e⟩ := bind_eq_ok_iff.1 e
      obtain ⟨rest, hmore, e⟩ := bind_eq_ok_iff.1 e
      cases e
      have others := ih unbroken.2 (fun entry hentry => by
        obtain rfl := Option.mem_some.1 hentry
        exact isClean_splitLine unbroken.1 hsplit) hmore
      intro entry hentry
      rcases List.mem_append.1 hentry with hentry | hentry
      · exact clean entry (by simpa using hentry)
      · exact others entry hentry

/-- A header that is read from lines without breaks is clean throughout. -/
theorem isClean_parse {lines : List Text} (unbroken : ∀ line ∈ lines, Text.IsUnbroken line)
    {h : Header} (e : parse lines = .ok h) : IsClean (fun _ => True) h.fields := by
  obtain ⟨entries, hlines, e⟩ := bind_eq_ok_iff.1 e
  cases e
  have clean := isClean_unfoldLines unbroken (by simp) hlines
  refine isClean_gather (fun entry hentry => ?_) fun entry hentry _ value hvalue => ?_
  all_goals obtain ⟨field, hfield, rfl⟩ := List.mem_map.1 hentry
  · exact (clean field hfield).1
  · rw [List.mem_singleton.1 hvalue]
    exact (clean field hfield).2

end Header

end Mailroom
