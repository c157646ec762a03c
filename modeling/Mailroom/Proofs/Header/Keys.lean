import Mathlib.Data.List.Induction
import Mailroom.Proofs.Header.Fields
import Mailroom.Proofs.Header.Name

/-!
# The names that fields are kept under

* `Header.IsKeyed`: each name is there once and is the canonical form of some text, which every
  change of the fields keeps;
* `Header.clone_fields_eq_iff`: a copy has the same fields exactly if every name is settled;
* `Header.valuesOf_clone`: what a copy has under a name comes from all fields whose names become
  that one;
* `Header.valuesOf_clone_eq_iff`: this is what the header has under it exactly if these are the
  fields of that name.
-/

namespace Mailroom.Header

open FieldName

/-- Fields each of which has a name of its own, and a canonical form for a name. -/
structure IsKeyed (fields : List Field) : Prop where
  nodup : (fields.map (·.name)).Nodup
  canonical : ∀ name ∈ fields.map (·.name), ∃ spelling, FieldName.canonical spelling = name

section

variable {fields fields' : List Field}

theorem isKeyed_nil : IsKeyed [] := ⟨List.nodup_nil, fun _ h => (by cases h)⟩

/-- One more canonical form, unless it is there already, does no harm. -/
theorem IsKeyed.of_names (keyed : IsKeyed fields) {spelling : Text}
    (names : fields'.map (·.name) =
      if FieldName.canonical spelling ∈ fields.map (·.name) then fields.map (·.name)
      else fields.map (·.name) ++ [FieldName.canonical spelling]) : IsKeyed fields' := by
  constructor
  · rw [names]
    exact nodup_concat_of_not_mem keyed.nodup
  · intro name hname
    rw [names] at hname
    by_cases there : FieldName.canonical spelling ∈ fields.map (·.name)
    · rw [if_pos there] at hname
      exact keyed.canonical name hname
    · rw [if_neg there] at hname
      rcases List.mem_append.1 hname with hname | hname
      · exact keyed.canonical name hname
      · exact ⟨spelling, (List.mem_singleton.1 hname).symm⟩

theorem IsKeyed.replaceValues (keyed : IsKeyed fields) (spelling value : Text) :
    IsKeyed (replaceValues (FieldName.canonical spelling) value fields) :=
  keyed.of_names (map_name_replaceValues _ _ _)

theorem IsKeyed.appendValues (keyed : IsKeyed fields) (spelling first : Text)
    (more : List Text) :
    IsKeyed (appendValues (FieldName.canonical spelling) first more fields) :=
  keyed.of_names (map_name_appendValues _ _ _ _)

theorem IsKeyed.removeField (keyed : IsKeyed fields) (key : Text) :
    IsKeyed (removeField key fields) where
  nodup := nodup_removeField keyed.nodup
  canonical name hname :=
    keyed.canonical name ((List.filter_sublist.map _).subset hname)

theorem isKeyed_gather (entries : List (Text × List Text)) : IsKeyed (gather entries) :=
  gather_induction isKeyed_nil fun name first more _ _ keyed => keyed.appendValues name first more

/-! ### Copies -/

theorem appendValues_of_not_mem {key : Text} (absent : key ∉ fields.map (·.name)) (first : Text)
    (more : List Text) :
    appendValues key first more fields = fields ++ [⟨key, first, more⟩] := by
  induction fields with
  | nil => rfl
  | cons f fields ih =>
    rw [List.map_cons, List.mem_cons, not_or] at absent
    rw [Header.appendValues, if_neg (Ne.symm absent.1), ih absent.2]
    rfl

/-- The last field is gathered after all others. -/
theorem gather_concat (entries : List (Text × List Text)) (name first : Text) (more : List Text) :
    gather (entries ++ [(name, first :: more)]) =
      appendValues (FieldName.canonical name) first more (gather entries) := by
  unfold gather
  rw [List.foldl_append]
  rfl

/-- Fields with settled names of their own are gathered as they are. -/
theorem gather_of_isSettled (nodup : (fields.map (·.name)).Nodup)
    (settled : ∀ f ∈ fields, IsSettled f.name) :
    gather (fields.map fun f => (f.name, f.values)) = fields := by
  -- fields are gathered from the first, so the last comes to those before it
  induction fields using List.reverseRecOn with
  | nil => rfl
  | append_singleton fields f ih =>
    rw [List.forall_mem_append, List.forall_mem_singleton] at settled
    rw [List.map_append, List.nodup_append] at nodup
    have absent : f.name ∉ fields.map (·.name) := fun there =>
      nodup.2.2 f.name there f.name (List.mem_singleton_self _) rfl
    rw [List.map_append, List.map_singleton, Field.values, gather_concat, ih nodup.1 settled.1,
      show FieldName.canonical f.name = f.name from settled.2, appendValues_of_not_mem absent]

end

variable {h : Header}

/-- What a copy has under a name comes from all fields whose names become that one. -/
theorem valuesOf_clone (h : Header) (name : Text) :
    valuesOf h.clone.fields name =
      (h.fields.filter fun f => FieldName.canonical f.name = name).flatMap Field.values := by
  show valuesOf (gather _) name = _
  rw [valuesOf_gather, List.filter_map, List.flatMap_map]
  rfl

theorem valuesOf_eq_nil_iff {fields : List Field} {name : Text} :
    valuesOf fields name = [] ↔ name ∉ fields.map (·.name) := by
  rw [← lookup?_isSome_iff, valuesOf]
  cases lookup? fields name <;> simp [Field.values]

/-- With every name only once, what is found under a name is what the fields of that name hold. -/
theorem valuesOf_eq_flatMap {fields : List Field} (nodup : (fields.map (·.name)).Nodup)
    (name : Text) :
    valuesOf fields name = (fields.filter fun f => f.name = name).flatMap Field.values := by
  rw [filter_name_eq nodup, valuesOf]
  cases lookup? fields name <;> simp

/-- **A copy has the same fields** exactly if every name is settled. -/
theorem clone_fields_eq_iff (keyed : IsKeyed h.fields) :
    h.clone.fields = h.fields ↔ ∀ f ∈ h.fields, IsSettled f.name := by
  constructor
  · intro same f hf
    -- the name is there in the copy, so it is the canonical form of a canonical form
    have there : f.name ∈ h.clone.fields.map (·.name) := by
      rw [same]
      exact List.mem_map_of_mem hf
    have some_value : valuesOf h.clone.fields f.name ≠ [] := fun none =>
      valuesOf_eq_nil_iff.1 none there
    rw [valuesOf_clone, Ne, List.flatMap_eq_nil_iff] at some_value
    push Not at some_value
    obtain ⟨g, hg, -⟩ := some_value
    obtain ⟨hg, becomes⟩ := List.mem_filter.1 hg
    obtain ⟨spelling, hspelling⟩ := keyed.canonical g.name (List.mem_map_of_mem hg)
    rw [← of_decide_eq_true becomes, ← hspelling]
    exact isSettled_canonical_canonical spelling
  · exact gather_of_isSettled keyed.nodup

/-- **A copy has the same under a name** exactly if the fields whose names become that one are the
fields of that name. -/
theorem valuesOf_clone_eq_iff (keyed : IsKeyed h.fields) (spelling : Text) :
    valuesOf h.clone.fields (FieldName.canonical spelling) =
        valuesOf h.fields (FieldName.canonical spelling) ↔
      ∀ f ∈ h.fields, (FieldName.canonical f.name = FieldName.canonical spelling ↔
        f.name = FieldName.canonical spelling) := by
  generalize hname : FieldName.canonical spelling = name
  rw [valuesOf_clone, valuesOf_eq_flatMap keyed.nodup]
  constructor
  · intro same
    by_cases settled : IsSettled name
    · -- the fields of that name are among those that become it, and no others add a value
      have own : (h.fields.filter fun f => FieldName.canonical f.name = name).filter
          (fun f => f.name = name) = h.fields.filter fun f => f.name = name := by
        rw [List.filter_filter]
        refine List.filter_congr fun f _ => ?_
        by_cases hf : f.name = name
        · simp [hf, show FieldName.canonical name = name from settled]
        · simp [hf]
      have parts := (List.filter_append_perm (fun f : Field => decide (f.name = name))
        (h.fields.filter fun f => FieldName.canonical f.name = name)).flatMap_right Field.values
      rw [own, List.flatMap_append] at parts
      have count := parts.length_eq
      rw [same, List.length_append] at count
      have others : List.flatMap Field.values ((h.fields.filter fun f =>
          FieldName.canonical f.name = name).filter fun f => !decide (f.name = name)) = [] :=
        List.eq_nil_of_length_eq_zero (by omega)
      intro f hf
      constructor
      · intro becomes
        by_contra differs
        have values := List.flatMap_eq_nil_iff.1 others f
          (List.mem_filter.2 ⟨List.mem_filter.2 ⟨hf, decide_eq_true becomes⟩,
            by simpa using differs⟩)
        cases values
      · intro hname
        rw [hname]
        exact settled
    · -- nothing becomes a name that is not settled, so no field has it
      have none : ∀ f ∈ h.fields, FieldName.canonical f.name ≠ name := by
        intro f hf becomes
        obtain ⟨s, hs⟩ := keyed.canonical f.name (List.mem_map_of_mem hf)
        rw [← hs] at becomes
        exact settled (becomes ▸ isSettled_canonical_canonical s)
      have empty : h.fields.filter (fun f => FieldName.canonical f.name = name) = [] :=
        List.filter_eq_nil_iff.2 fun f hf => by simpa using none f hf
      rw [empty, List.flatMap_nil, eq_comm, List.flatMap_eq_nil_iff] at same
      intro f hf
      refine ⟨fun becomes => absurd becomes (none f hf), fun has => ?_⟩
      cases same f (List.mem_filter.2 ⟨hf, decide_eq_true has⟩)
  · intro same
    rw [List.filter_congr fun f hf => decide_eq_decide.2 (same f hf)]

end Mailroom.Header
