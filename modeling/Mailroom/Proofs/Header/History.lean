import Mailroom.Proofs.Header.Keys
import Mailroom.Proofs.Header.Order
import Mailroom.Proofs.Message.Desk

/-!
# Headers and the changes made to them

A header is what has been done to it: each field has the values that the changes of its name leave,
whatever has been done to other fields in between.

* `Header.Change`: a change of a header; `Change.apply` carries it out;
* `Header.replay`: the values that changes leave under a canonical name, told from the changes of
  that name alone;
* `Header.countFrom`: how many of the changes count;
* `Header.Records`: a header that has the fields of some changes, which each further change keeps;
* `Header.history`: what can be read from a header after any changes, and that it stays so once it
  has been closed.
-/

namespace Mailroom.Header

/-- A change of a header, for a name in any form. -/
inductive Change where
  | add (name value : Text)
  | set (name value : Text)
  | delete (name : Text)
deriving DecidableEq

namespace Change

/-- The canonical form of the name that a change is about. -/
def key : Change → Text
  | add name _ | set name _ | delete name => FieldName.canonical name

/-- The header after a change, unless that is refused. -/
def apply : Change → Header → Except HeaderFault Header
  | add name value, h => h.add name value
  | set name value, h => h.set name value
  | delete name, h => h.delete name

/-- What a change makes of the values under its name. -/
def act : Change → List Text → List Text
  | add _ value, values => values ++ [value]
  | set _ value, _ => [value]
  | delete _, _ => []

/-- A change counts, unless it takes away values where there are none. -/
def counts : Change → List Text → Bool
  | delete _, values => !values.isEmpty
  | _, _ => true

end Change

/-- The values that some changes leave under a canonical name. -/
def replay (changes : List Change) (key : Text) : List Text :=
  (changes.filter fun c => c.key = key).foldl (fun values c => c.act values) []

/-- How many of some changes count after those of the past. -/
def countFrom (past : List Change) : List Change → Nat
  | [] => 0
  | c :: changes =>
    (if c.counts (replay past c.key) then 1 else 0) + countFrom (past ++ [c]) changes

@[simp] theorem replay_nil (key : Text) : replay [] key = [] := rfl

/-- The last change acts on the values under its own name, and on no others. -/
theorem replay_concat (changes : List Change) (c : Change) (key : Text) :
    replay (changes ++ [c]) key =
      if key = c.key then c.act (replay changes key) else replay changes key := by
  unfold replay
  rw [List.filter_append, List.foldl_append]
  by_cases h : key = c.key
  · simp [h]
  · simp [h, Ne.symm h]

theorem countFrom_append (past before after : List Change) :
    countFrom past (before ++ after) =
      countFrom past before + countFrom (past ++ before) after := by
  induction before generalizing past with
  | nil => simp [countFrom]
  | cons c before ih =>
    rw [List.cons_append, countFrom, countFrom, ih, List.append_assoc, Nat.add_assoc]
    rfl

/-! ### One change -/

theorem valuesOf_replaceValues (key value name : Text) (fields : List Field) :
    valuesOf (replaceValues key value fields) name =
      if name = key then [value] else valuesOf fields name := by
  unfold valuesOf
  rw [lookup?_replaceValues]
  split <;> rfl

theorem valuesOf_removeField (key name : Text) (fields : List Field) :
    valuesOf (removeField key fields) name = if name = key then [] else valuesOf fields name := by
  unfold valuesOf
  rw [lookup?_removeField]
  split <;> rfl

theorem contains_iff_valuesOf_ne_nil {h : Header} {name : Text} :
    h.contains name = true ↔ valuesOf h.fields (FieldName.canonical name) ≠ [] := by
  rw [Ne, valuesOf_eq_nil_iff, not_not, ← lookup?_isSome_iff]
  rfl

/-- What a change makes of a header that may be changed: it acts on the values under its name, and
is counted if it counts. -/
structure Changed (c : Change) (h h' : Header) : Prop where
  writable : h'.isReadOnly = false
  keyed : IsKeyed h.fields → IsKeyed h'.fields
  values : ∀ key, valuesOf h'.fields key =
    if key = c.key then c.act (valuesOf h.fields key) else valuesOf h.fields key
  revision : h'.revision = h.revision + if c.counts (valuesOf h.fields c.key) then 1 else 0

/-- A header that may be changed takes every change. -/
theorem exists_changed (c : Change) {h : Header} (writable : h.isReadOnly = false) :
    ∃ h', c.apply h = .ok h' ∧ Changed c h h' := by
  have opened : ¬ h.isReadOnly = true := by simp [writable]
  cases c with
  | add name value =>
    refine ⟨_, if_neg opened, writable, fun keyed => keyed.appendValues name value [], ?_, rfl⟩
    intro key
    show valuesOf (appendValues _ _ _ _) key = _
    rw [valuesOf_appendValues]
    by_cases same : key = FieldName.canonical name
    · simp [Change.key, Change.act, same]
    · simp [Change.key, same]
  | set name value =>
    refine ⟨_, if_neg opened, writable, fun keyed => keyed.replaceValues name value, ?_, rfl⟩
    intro key
    show valuesOf (replaceValues _ _ _) key = _
    rw [valuesOf_replaceValues]
    rfl
  | delete name =>
    by_cases there : h.contains name = true
    · have some_value := contains_iff_valuesOf_ne_nil.1 there
      refine ⟨_, (if_neg opened).trans (if_pos there), writable, fun keyed => keyed.removeField _,
        ?_, ?_⟩
      · intro key
        show valuesOf (removeField _ _) key = _
        rw [valuesOf_removeField]
        rfl
      · simp [Change.counts, Change.key, some_value]
    · have none : valuesOf h.fields (FieldName.canonical name) = [] := by
        by_contra some_value
        exact there (contains_iff_valuesOf_ne_nil.2 some_value)
      refine ⟨h, (if_neg opened).trans (if_neg there), writable, id, ?_, ?_⟩
      · intro key
        by_cases same : key = FieldName.canonical name
        · simp [Change.key, Change.act, same, none]
        · simp [Change.key, same]
      · simp [Change.counts, Change.key, none]

/-! ### Any number of changes -/

/-- A header that may be changed and has the fields that some changes leave. -/
structure Records (h : Header) (changes : List Change) : Prop where
  writable : h.isReadOnly = false
  keyed : IsKeyed h.fields
  values : ∀ key, valuesOf h.fields key = replay changes key
  revision : h.revision = countFrom [] changes

/-- One more change is recorded. -/
theorem Records.concat {h : Header} {changes : List Change} (records : h.Records changes)
    (c : Change) : ∃ h', c.apply h = .ok h' ∧ h'.Records (changes ++ [c]) := by
  obtain ⟨h', applied, changed⟩ := exists_changed c records.writable
  refine ⟨h', applied, changed.writable, changed.keyed records.keyed, fun key => ?_, ?_⟩
  · rw [changed.values, replay_concat, records.values]
  · rw [changed.revision, records.revision, records.values, countFrom_append, List.nil_append]
    rfl

/-- **A header records all changes** that have been made to it, none of which is refused. -/
theorem exists_records (changes : List Change) :
    ∃ h, changes.foldlM (fun h c => c.apply h) empty = .ok h ∧ h.Records changes := by
  -- the last change is made to a header that records those before it
  induction changes using List.reverseRecOn with
  | nil => exact ⟨empty, rfl, rfl, isKeyed_nil, fun _ => rfl, rfl⟩
  | append_singleton changes c ih =>
    obtain ⟨h, made, records⟩ := ih
    obtain ⟨h', applied, records'⟩ := records.concat c
    refine ⟨h', ?_, records'⟩
    rw [List.foldlM_append, made]
    show ([c].foldlM (fun h c => c.apply h) h : Except HeaderFault Header) = _
    rw [List.foldlM_cons, applied]
    rfl

/-! ### What can be read -/

theorem first_eq (h : Header) (name : Text) :
    h.first name = (valuesOf h.fields (FieldName.canonical name)).head?.getD [] := by
  unfold first find? valuesOf
  cases lookup? h.fields (FieldName.canonical name) <;> rfl

theorem addresses_eq (h : Header) (name : Text) :
    h.addresses name = match valuesOf h.fields (FieldName.canonical name) with
      | [] => .ok []
      | value :: _ => if value.isBlank then .ok [] else AddressList.parse value := by
  unfold addresses find? valuesOf
  cases lookup? h.fields (FieldName.canonical name) <;> rfl

theorem mem_names_iff {h : Header} {key : Text} : key ∈ h.names ↔ valuesOf h.fields key ≠ [] := by
  rw [Ne, valuesOf_eq_nil_iff, not_not]
  exact ((perm_sorted h.fields).map _).mem_iff

theorem pairwise_names {h : Header} (nodup : (h.fields.map (·.name)).Nodup) :
    h.names.Pairwise fun a b => Text.before a b = true :=
  List.pairwise_map.2 (increasing_sorted nodup)

theorem size_eq_length_names (h : Header) : h.size = h.names.length := by
  unfold size names sorted
  rw [List.length_map, (perm_sorted h.fields).length_eq]

/-- With every name only once, the values of a field are those that are found under its name. -/
theorem values_eq_valuesOf {fields : List Field} (nodup : (fields.map (·.name)).Nodup) {f : Field}
    (hf : f ∈ fields) : f.values = valuesOf fields f.name := by
  unfold valuesOf
  rw [lookup?_of_mem nodup hf]
  rfl

/-- With every name only once, the lines are those of the names in order, each with the first of
the values under it. -/
theorem lines_eq {h : Header} (nodup : (h.fields.map (·.name)).Nodup) :
    h.lines = (h.names.filter fun key => !isHidden key).map fun key =>
      key ++ ": " ++ (valuesOf h.fields key).head?.getD [] := by
  unfold lines names
  rw [List.filter_map, List.map_map]
  refine List.map_congr_left fun f hf => ?_
  have member : f ∈ h.fields := (perm_sorted h.fields).mem_iff.1 (List.mem_filter.1 hf).1
  show line f = f.name ++ ": " ++ (valuesOf h.fields f.name).head?.getD []
  rw [← values_eq_valuesOf nodup member]
  rfl

/-- A closed header refuses every change. -/
theorem apply_freeze (c : Change) (h : Header) : c.apply h.freeze = .error .readOnly := by
  cases c <;> rfl

/-- **A header is what has been done to it.** After any changes, none of which is refused, the
values under a name in any form are those that the changes of that field leave; the first of them,
the addresses and the written lines are read from them; the names are those under which there is
any value, each once and in order; and the changes that count have been counted. Once the header is
closed, all of this stays: every further change is refused and leaves it as it is. -/
theorem history (changes : List Change) :
    ∃ h, changes.foldlM (fun h c => c.apply h) empty = .ok h ∧ h.isReadOnly = false ∧
      (∀ name, let values := replay changes (FieldName.canonical name)
        h.values name = values ∧ h.first name = values.head?.getD [] ∧
          (h.contains name = true ↔ values ≠ []) ∧
          h.addresses name = match values with
            | [] => .ok []
            | value :: _ => if value.isBlank then .ok [] else AddressList.parse value) ∧
      h.size = h.names.length ∧ (h.names.Pairwise fun a b => Text.before a b = true) ∧
      (∀ key, key ∈ h.names ↔ replay changes key ≠ []) ∧
      (∀ f ∈ h.fields, f.values = replay changes f.name ∧ f.values ≠ []) ∧
      h.lines = ((h.names.filter fun key => !isHidden key).map fun key =>
        key ++ ": " ++ (replay changes key).head?.getD []) ∧
      h.revision = countFrom [] changes ∧
      h.freeze.fields = h.fields ∧ h.freeze.revision = h.revision ∧
      ∀ c : Change, c.apply h.freeze = .error .readOnly ∧
        ∀ d : Desk, d.email.header = h.freeze →
          perform (Work.changeHeader c.apply) d = (.error (.header .readOnly), d) := by
  obtain ⟨h, made, records⟩ := exists_records changes
  have nodup := records.keyed.nodup
  refine ⟨h, made, records.writable, fun name => ?_, size_eq_length_names h, pairwise_names nodup,
    fun key => ?_, fun f hf => ?_, ?_, records.revision, rfl, rfl, fun c => ?_⟩
  · have values := records.values (FieldName.canonical name)
    refine ⟨values, ?_, ?_, ?_⟩
    · rw [first_eq, values]
    · rw [contains_iff_valuesOf_ne_nil, values]
    · rw [addresses_eq, values]
  · rw [mem_names_iff, records.values]
  · exact ⟨by rw [values_eq_valuesOf nodup hf, records.values], List.cons_ne_nil _ _⟩
  · simp only [lines_eq nodup, records.values]
  · have refused := apply_freeze c h
    refine ⟨refused, fun d closed => ?_⟩
    rw [Work.perform_changeHeader, closed, refused]

/-- Names that differ in the case of their letters are one field, and a field that is taken away
twice is counted once. -/
example :
    let changes : List Change := [.add "to" "a", .add "TO" "b", .add "x-y" "c", .delete "X-Y",
      .delete "x-Y"]
    replay changes "To" = [Text.ofString "a", "b"] ∧ replay changes "X-Y" = [] ∧
      countFrom [] changes = 4 := by
  decide +kernel

end Mailroom.Header
