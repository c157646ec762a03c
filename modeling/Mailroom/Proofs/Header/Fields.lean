import Mailroom.Header.Basic

/-!
# The fields of a header, name by name

What each change of a header does to what is found under a name.

* `Header.valuesOf`: all values under a canonical name; `lookup?_eq` gives the field back;
* `lookup?_replaceValues`, `lookup?_removeField`: the changes, name by name;
* `valuesOf_gather`: fields put together under their canonical names;
* `filter_replaceValues`: a change seen among the fields of some names only;
* `Nodup` of the names, which every change keeps;
* `gather_induction`: what holds of fields that are put together, entry by entry.
-/

namespace Mailroom.Header

/-- The field of a name with some values, if there are any. -/
def ofValues? (name : Text) : List Text → Option Field
  | [] => none
  | first :: more => some ⟨name, first, more⟩

/-- All values under a canonical name. -/
def valuesOf (fields : List Field) (name : Text) : List Text :=
  ((lookup? fields name).map Field.values).getD []

/-! ### Looking up -/

@[simp] theorem lookup?_nil (name : Text) : lookup? [] name = none := rfl

theorem lookup?_cons (f : Field) (fields : List Field) (name : Text) :
    lookup? (f :: fields) name = if f.name = name then some f else lookup? fields name := by
  unfold lookup?
  rw [List.find?_cons]
  split <;> simp_all

theorem name_of_lookup? {fields : List Field} {name : Text} {f : Field}
    (h : lookup? fields name = some f) : f.name = name := by
  simpa using List.find?_some h

theorem mem_of_lookup? {fields : List Field} {name : Text} {f : Field}
    (h : lookup? fields name = some f) : f ∈ fields := List.mem_of_find?_eq_some h

/-- A field is what its name and its values make it. -/
theorem lookup?_eq (fields : List Field) (name : Text) :
    lookup? fields name = ofValues? name (valuesOf fields name) := by
  unfold valuesOf
  cases h : lookup? fields name with
  | none => rfl
  | some f =>
    have := name_of_lookup? h
    subst this
    rfl

/-- Fields of other names do not matter to a look-up. -/
theorem lookup?_filter {p : Text → Bool} {name : Text} (hp : p name = true) (fields : List Field) :
    lookup? (fields.filter fun f => p f.name) name = lookup? fields name := by
  induction fields with
  | nil => rfl
  | cons f fields ih =>
    by_cases hf : f.name = name
    · rw [List.filter_cons, if_pos (by rwa [hf]), lookup?_cons, lookup?_cons, if_pos hf, if_pos hf]
    · rw [lookup?_cons, if_neg hf, ← ih]
      by_cases hpf : p f.name = true
      · rw [List.filter_cons, if_pos hpf, lookup?_cons, if_neg hf]
      · rw [List.filter_cons, if_neg hpf]

theorem lookup?_isSome_iff {fields : List Field} {name : Text} :
    (lookup? fields name).isSome ↔ name ∈ fields.map (·.name) := by
  simp [lookup?, List.find?_isSome]

/-- With every name only once, every field is found under its name. -/
theorem lookup?_of_mem {fields : List Field} (nodup : (fields.map (·.name)).Nodup) {f : Field}
    (hf : f ∈ fields) : lookup? fields f.name = some f := by
  induction fields with
  | nil => cases hf
  | cons g fields ih =>
    rw [List.map_cons, List.nodup_cons] at nodup
    rw [lookup?_cons]
    rcases List.mem_cons.1 hf with rfl | hf
    · rw [if_pos rfl]
    · rw [if_neg fun h : g.name = f.name => nodup.1 (h ▸ List.mem_map_of_mem hf),
        ih nodup.2 hf]

theorem lookup?_eq_some_iff {fields : List Field} (nodup : (fields.map (·.name)).Nodup)
    {name : Text} {f : Field} : lookup? fields name = some f ↔ f ∈ fields ∧ f.name = name := by
  constructor
  · exact fun found => ⟨mem_of_lookup? found, name_of_lookup? found⟩
  · rintro ⟨hf, rfl⟩
    exact lookup?_of_mem nodup hf

/-- With every name only once, the fields of one name are what is found under it. -/
theorem filter_name_eq {fields : List Field} (nodup : (fields.map (·.name)).Nodup) (name : Text) :
    fields.filter (fun f => f.name = name) = (lookup? fields name).toList := by
  induction fields with
  | nil => rfl
  | cons g fields ih =>
    rw [List.map_cons, List.nodup_cons] at nodup
    rw [List.filter_cons, ih nodup.2, lookup?_cons]
    by_cases hg : g.name = name
    · have absent : lookup? fields name = none :=
        Option.not_isSome_iff_eq_none.1 fun h => nodup.1 (hg ▸ lookup?_isSome_iff.1 h)
      simp [hg, absent]
    · simp [hg]

/-! ### Changes -/

theorem replaceValues_cons (key value : Text) (f : Field) (fields : List Field) :
    replaceValues key value (f :: fields) =
      if f.name = key then ⟨key, value, []⟩ :: fields
      else f :: replaceValues key value fields := rfl

theorem mem_replaceValues {key value : Text} {fields : List Field} {f : Field}
    (hf : f ∈ replaceValues key value fields) : f = ⟨key, value, []⟩ ∨ f ∈ fields := by
  induction fields with
  | nil => exact .inl (List.mem_singleton.1 hf)
  | cons g fields ih =>
    rw [replaceValues_cons] at hf
    split at hf
    · exact (List.mem_cons.1 hf).imp_right (List.mem_cons_of_mem g)
    · rcases List.mem_cons.1 hf with rfl | hf
      · exact .inr List.mem_cons_self
      · exact (ih hf).imp_right (List.mem_cons_of_mem g)

theorem lookup?_replaceValues (key value name : Text) (fields : List Field) :
    lookup? (replaceValues key value fields) name =
      if name = key then some ⟨key, value, []⟩ else lookup? fields name := by
  induction fields with
  | nil =>
    simp only [replaceValues, lookup?_cons, lookup?_nil, eq_comm]
  | cons f fields ih =>
    unfold replaceValues
    split
    · next hf =>
      simp only [lookup?_cons, hf, eq_comm (a := key)]
      split <;> rfl
    · next hf =>
      rw [lookup?_cons, lookup?_cons, ih]
      split
      · next hn => rw [if_neg (hn ▸ hf)]
      · rfl

theorem lookup?_removeField (key name : Text) (fields : List Field) :
    lookup? (removeField key fields) name = if name = key then none else lookup? fields name := by
  split
  · next hn =>
    subst hn
    cases h : lookup? (removeField name fields) name with
    | none => rfl
    | some f =>
      have hf := (List.mem_filter.1 (mem_of_lookup? h)).2
      simp [name_of_lookup? h] at hf
  · next hn => exact lookup?_filter (p := fun n => decide (n ≠ key)) (by simpa using hn) fields

theorem valuesOf_appendValues (key first name : Text) (more : List Text) (fields : List Field) :
    valuesOf (appendValues key first more fields) name =
      if name = key then valuesOf fields key ++ first :: more else valuesOf fields name := by
  induction fields with
  | nil =>
    simp only [appendValues, valuesOf, lookup?_cons, lookup?_nil, eq_comm (a := key)]
    split <;> rfl
  | cons f fields ih =>
    simp only [valuesOf, appendValues] at ih ⊢
    split
    · next hf =>
      simp only [lookup?_cons, hf, eq_comm (a := key)]
      split <;> simp [Field.values]
    · next hf =>
      by_cases hn : f.name = name
      · have hk : name ≠ key := hn ▸ hf
        simp [lookup?_cons, hn, hk]
      · simp [lookup?_cons, hf, hn, ih]

/-- Fields put together under their canonical names. -/
theorem valuesOf_gather (l : List (Text × List Text)) (name : Text) :
    valuesOf (gather l) name =
      (l.filter fun entry => FieldName.canonical entry.1 = name).flatMap (·.2) := by
  have empty : valuesOf [] name = [] := rfl
  rw [gather, ← List.nil_append (List.flatMap _ _), ← empty]
  -- for any fields that have been put together before
  generalize ([] : List Field) = fields
  induction l generalizing fields with
  | nil => simp
  | cons entry l ih =>
    obtain ⟨n, values⟩ := entry
    rw [List.foldl_cons, ih]
    cases values with
    | nil => by_cases hn : FieldName.canonical n = name <;> simp [hn]
    | cons first more =>
      simp only [valuesOf_appendValues, eq_comm (a := name)]
      by_cases hn : FieldName.canonical n = name <;> simp [hn]

/-- A value put in place is seen among the fields of some names if its own name is one of them. -/
theorem filter_replaceValues (p : Text → Bool) (key value : Text) (fields : List Field) :
    (replaceValues key value fields).filter (fun f => p f.name) =
      if p key then replaceValues key value (fields.filter fun f => p f.name)
      else fields.filter fun f => p f.name := by
  induction fields with
  | nil => cases hp : p key <;> simp [replaceValues, hp]
  | cons f fields ih =>
    rw [replaceValues_cons]
    split
    · next hf =>
      subst hf
      cases hp : p f.name <;> simp [hp, replaceValues_cons]
    · next hf =>
      rw [List.filter_cons, ih]
      cases p key <;> cases hpf : p f.name <;> simp [hpf, replaceValues_cons, hf]

/-! ### Every name once -/

theorem map_name_replaceValues (key value : Text) (fields : List Field) :
    (replaceValues key value fields).map (·.name) =
      if key ∈ fields.map (·.name) then fields.map (·.name) else fields.map (·.name) ++ [key] := by
  induction fields with
  | nil => simp [replaceValues]
  | cons f fields ih =>
    unfold replaceValues
    split
    · next hf => simp [hf]
    · next hf =>
      by_cases hk : key ∈ fields.map (·.name) <;> simp [ih, hk, Ne.symm hf]

theorem map_name_appendValues (key first : Text) (more : List Text) (fields : List Field) :
    (appendValues key first more fields).map (·.name) =
      if key ∈ fields.map (·.name) then fields.map (·.name) else fields.map (·.name) ++ [key] := by
  induction fields with
  | nil => simp [appendValues]
  | cons f fields ih =>
    unfold appendValues
    split
    · next hf => simp [hf]
    · next hf =>
      by_cases hk : key ∈ fields.map (·.name) <;> simp [ih, hk, Ne.symm hf]

theorem nodup_concat_of_not_mem {names : List Text} {key : Text} (h : names.Nodup) :
    (if key ∈ names then names else names ++ [key]).Nodup := by
  split
  · exact h
  · next hk =>
    rw [List.nodup_append]
    exact ⟨h, by simp, fun a ha b hb => by
      rw [List.mem_singleton] at hb
      rintro rfl
      exact hk (hb ▸ ha)⟩

theorem nodup_replaceValues {key value : Text} {fields : List Field}
    (h : (fields.map (·.name)).Nodup) : ((replaceValues key value fields).map (·.name)).Nodup := by
  rw [map_name_replaceValues]
  exact nodup_concat_of_not_mem h

theorem nodup_removeField {key : Text} {fields : List Field} (h : (fields.map (·.name)).Nodup) :
    ((removeField key fields).map (·.name)).Nodup :=
  h.sublist (List.filter_sublist.map _)

/-- What holds of no fields, and still holds when the values of an entry are put in, holds of all
the fields that are put together. -/
theorem gather_induction {motive : List Field → Prop} {entries : List (Text × List Text)}
    (empty : motive [])
    (put : ∀ name first more fields, (name, first :: more) ∈ entries → motive fields →
      motive (appendValues (FieldName.canonical name) first more fields)) :
    motive (gather entries) := by
  refine List.foldlRecOn entries _ empty fun fields h entry hentry => ?_
  rcases entry with ⟨name, _ | ⟨first, more⟩⟩
  · exact h
  · exact put name first more fields hentry h

theorem nodup_gather (l : List (Text × List Text)) : ((gather l).map (·.name)).Nodup := by
  refine gather_induction (motive := fun fields => (fields.map (·.name)).Nodup) List.nodup_nil
    fun name first more fields _ h => ?_
  rw [map_name_appendValues]
  exact nodup_concat_of_not_mem h

end Mailroom.Header
