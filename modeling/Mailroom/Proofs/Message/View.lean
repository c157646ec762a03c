import Mathlib.Tactic.SplitIfs
import Mailroom.Message.Basic
import Mailroom.Proofs.Header.Fields
import Mailroom.Proofs.Perform

/-!
# The view of a header, field by field

* `Email.canonicalField_of_parses`: the canonical form of a field that can be read;
* `Email.viewFields`: the fields of a view, given the address fields in canonical form;
* `Email.map_fields_reconcile`: a view has these fields, or its first address field that cannot
  be shown is why there is none;
* `Email.lookup?_viewFields`: what is found in a view under each name.
-/

namespace Mailroom

namespace FieldName

@[simp] theorem canonical_from : canonical (Text.ofString "from") = Text.ofString "From" := by
  decide

@[simp] theorem canonical_to : canonical (Text.ofString "to") = Text.ofString "To" := by decide

@[simp] theorem canonical_cc : canonical (Text.ofString "cc") = Text.ofString "Cc" := by decide

@[simp] theorem canonical_bcc : canonical (Text.ofString "bcc") = Text.ofString "Bcc" := by decide

end FieldName

namespace Header

variable {h : Header}

theorem set_eq_ok (writable : h.isReadOnly = false) (name value : Text) :
    h.set name value = .ok { h with
      fields := replaceValues (FieldName.canonical name) value h.fields
      revision := h.revision + 1 } := by
  simp [set, writable]

theorem removeField_of_lookup?_eq_none {name : Text} {fields : List Field}
    (absent : lookup? fields name = none) : removeField name fields = fields := by
  refine List.filter_eq_self.2 fun f hf => ?_
  have : name ∉ fields.map (·.name) := by
    rw [← lookup?_isSome_iff, absent]
    simp
  exact decide_eq_true fun hn => this (hn ▸ List.mem_map_of_mem hf)

theorem delete_eq_ok (writable : h.isReadOnly = false) (name : Text) :
    ∃ h', h.delete name = .ok h' ∧ h'.isReadOnly = false ∧
      h'.fields = removeField (FieldName.canonical name) h.fields := by
  unfold delete contains find?
  simp only [writable, Bool.false_eq_true, if_false]
  cases absent : lookup? h.fields (FieldName.canonical name) with
  | none => exact ⟨h, rfl, writable, (removeField_of_lookup?_eq_none absent).symm⟩
  | some f => exact ⟨_, rfl, rfl, rfl⟩

end Header

namespace Email

open Header

/-- Fields with one more in its place, if there is a text for it. -/
def putShown (key : Text) (text : Option Text) (fields : List Field) : List Field :=
  match text with
  | some text => replaceValues key text fields
  | none => fields

/-- The fields of a view, given the address fields in canonical form. -/
def viewFields (h : Header) (sender primary cc : Option Text) : List Field :=
  putShown "Cc" cc (putShown "To" primary (putShown "From" sender (removeField "Bcc"
    (removeField "Cc" (removeField "To" (removeField "From" h.clone.fields))))))

/-- The addresses of a field that a view shows: of the sender's, the first alone. -/
def shownPart (field : Text) (addresses : AddressList) : AddressList :=
  if field = Text.ofString "from" then addresses.take 1 else addresses

/-- The canonical form of a field that can be read. -/
theorem canonicalField_of_parses {h : Header} {field : Text} {addresses : AddressList}
    (parses : h.addresses field = .ok addresses) :
    canonicalField h field =
      if (shownPart field addresses).isEmpty then .ok none
      else match AddressList.render? (shownPart field addresses) with
        | some text => .ok (some text)
        | none => .error (.breakdown .unencodable) := by
  unfold canonicalField
  rw [parses]
  split
  · rfl
  · next absent =>
    have : addresses = [] := by
      unfold Header.addresses at parses
      cases found : h.find? field with
      | none =>
        rw [found] at parses
        cases parses
        rfl
      | some f => exact absurd (by rw [Header.contains, found]; rfl) absent
    rw [this, if_pos (by unfold shownPart; split <;> rfl)]

theorem mem_of_mem_shownPart {field : Text} {addresses : AddressList} {a : Address}
    (h : a ∈ shownPart field addresses) : a ∈ addresses := by
  unfold shownPart at h
  split at h
  · exact List.mem_of_mem_take h
  · exact h

theorem addCanonical_of_writable {h view : Header} (writable : view.isReadOnly = false)
    (field : Text) {text : Option Text} (shown : canonicalField h field = .ok text) :
    ∃ view', addCanonical h view field = .ok view' ∧ view'.isReadOnly = false ∧
      view'.fields = putShown (FieldName.canonical field) text view.fields := by
  unfold addCanonical
  rw [shown]
  cases text with
  | none => exact ⟨view, rfl, writable, rfl⟩
  | some text =>
    refine ⟨{ view with
      fields := replaceValues (FieldName.canonical field) text view.fields
      revision := view.revision + 1 }, ?_, writable, rfl⟩
    show (view.set field text).mapError Failure.header = _
    rw [set_eq_ok writable]
    rfl

theorem addCanonical_of_error {h view : Header} {field : Text} {failure : Failure}
    (e : canonicalField h field = .error failure) :
    addCanonical h view field = .error failure := by
  unfold addCanonical
  rw [e]
  rfl

/-- The header without its address fields, as a view starts out. -/
theorem foldlM_delete (h : Header) :
    ∃ bare, addressFields.foldlM (fun (view : Header) field => view.delete field) h.clone =
        .ok bare ∧ bare.isReadOnly = false ∧
      bare.fields = removeField "Bcc" (removeField "Cc" (removeField "To"
        (removeField "From" h.clone.fields))) := by
  obtain ⟨h₁, e₁, w₁, f₁⟩ := delete_eq_ok (isReadOnly_clone h) (Text.ofString "from")
  obtain ⟨h₂, e₂, w₂, f₂⟩ := delete_eq_ok w₁ (Text.ofString "to")
  obtain ⟨h₃, e₃, w₃, f₃⟩ := delete_eq_ok w₂ (Text.ofString "cc")
  obtain ⟨h₄, e₄, w₄, f₄⟩ := delete_eq_ok w₃ (Text.ofString "bcc")
  refine ⟨h₄, ?_, w₄, ?_⟩
  · simp only [addressFields, List.foldlM_cons, List.foldlM_nil, e₁, e₂, e₃, e₄, bind,
      Except.bind]
    rfl
  · simp only [f₄, f₃, f₂, f₁, FieldName.canonical_from, FieldName.canonical_to,
      FieldName.canonical_cc, FieldName.canonical_bcc]

/-- A view has the fields that it has to have, or an address field that cannot be shown is why
there is none. -/
theorem map_fields_reconcile (h : Header) :
    (reconcile h).map (·.fields) = (do
      let sender ← canonicalField h "from"
      let primary ← canonicalField h "to"
      let cc ← canonicalField h "cc"
      return viewFields h sender primary cc) := by
  obtain ⟨bare, e, writable, fields⟩ := foldlM_delete h
  unfold reconcile shownFields
  rw [e]
  simp only [mapError_ok, List.foldlM_cons, List.foldlM_nil]
  show Except.map _ ((((addCanonical h bare "from").bind fun init =>
    (addCanonical h init "to").bind fun init => (addCanonical h init "cc").bind Except.ok)).bind
      fun view => Except.ok view.freeze) = (canonicalField h "from").bind fun sender =>
    (canonicalField h "to").bind fun primary => (canonicalField h "cc").bind fun cc => .ok _
  -- the first of the three that cannot be shown decides, as the others are not looked at
  cases hs : canonicalField h "from" with
  | error failure => rw [addCanonical_of_error hs]; rfl
  | ok sender =>
    obtain ⟨v₁, e₁, w₁, f₁⟩ := addCanonical_of_writable writable "from" hs
    rw [e₁]
    cases ht : canonicalField h "to" with
    | error failure =>
      simp only [Except.bind, addCanonical_of_error ht, Except.map]
    | ok primary =>
      obtain ⟨v₂, e₂, w₂, f₂⟩ := addCanonical_of_writable w₁ "to" ht
      simp only [Except.bind, e₂]
      cases hc : canonicalField h "cc" with
      | error failure => simp only [addCanonical_of_error hc, Except.map]
      | ok cc =>
        obtain ⟨v₃, e₃, w₃, f₃⟩ := addCanonical_of_writable w₂ "cc" hc
        simp only [e₃, Except.map, Header.freeze, f₃, f₂, f₁, fields, FieldName.canonical_from,
          FieldName.canonical_to, FieldName.canonical_cc, viewFields]

theorem reconcile_eq_ok {h view : Header} (e : reconcile h = .ok view) :
    ∃ sender primary cc, canonicalField h "from" = .ok sender ∧
      canonicalField h "to" = .ok primary ∧ canonicalField h "cc" = .ok cc ∧
      view.fields = viewFields h sender primary cc := by
  have he := map_fields_reconcile h
  rw [e] at he
  cases hs : canonicalField h "from" with
  | error failure => rw [hs] at he; cases he
  | ok sender =>
    cases ht : canonicalField h "to" with
    | error failure => rw [hs, ht] at he; cases he
    | ok primary =>
      cases hc : canonicalField h "cc" with
      | error failure => rw [hs, ht, hc] at he; cases he
      | ok cc =>
        rw [hs, ht, hc] at he
        exact ⟨sender, primary, cc, rfl, rfl, rfl, Except.ok.inj he⟩

/-- There is a view exactly if each address field that it shows has a canonical form. -/
theorem exists_reconcile_eq_ok_iff {h : Header} :
    (∃ view, reconcile h = .ok view) ↔
      ∀ field ∈ shownFields, ∃ text, canonicalField h field = .ok text := by
  constructor
  · rintro ⟨view, e⟩
    obtain ⟨sender, primary, cc, hs, ht, hc, -⟩ := reconcile_eq_ok e
    simp only [shownFields, List.forall_mem_cons]
    exact ⟨⟨sender, hs⟩, ⟨primary, ht⟩, ⟨cc, hc⟩, fun _ h => (by cases h)⟩
  · intro all
    simp only [shownFields, List.forall_mem_cons] at all
    obtain ⟨⟨sender, hs⟩, ⟨primary, ht⟩, ⟨cc, hc⟩, -⟩ := all
    have fields := map_fields_reconcile h
    rw [hs, ht, hc] at fields
    obtain ⟨view, e, -⟩ := map_eq_ok_iff.1 fields
    exact ⟨view, e⟩

theorem lookup?_putShown (key name : Text) (text : Option Text) (fields : List Field) :
    lookup? (putShown key text fields) name =
      if name = key then (text.map (⟨key, ·, []⟩)).or (lookup? fields name)
      else lookup? fields name := by
  cases text with
  | none => simp [putShown]
  | some text =>
    simp only [putShown, lookup?_replaceValues]
    split <;> rfl

/-- What is found in a view: the address fields in canonical form, hidden recipients gone, and
all else as in a copy of the header. -/
theorem lookup?_viewFields (h : Header) (sender primary cc : Option Text) (name : Text) :
    lookup? (viewFields h sender primary cc) name =
      if name = Text.ofString "From" then sender.map (⟨name, ·, []⟩)
      else if name = Text.ofString "To" then primary.map (⟨name, ·, []⟩)
      else if name = Text.ofString "Cc" then cc.map (⟨name, ·, []⟩)
      else if name = Text.ofString "Bcc" then none
      else lookup? h.clone.fields name := by
  have from_to : Text.ofString "From" ≠ Text.ofString "To" := by decide
  have from_cc : Text.ofString "From" ≠ Text.ofString "Cc" := by decide
  have to_cc : Text.ofString "To" ≠ Text.ofString "Cc" := by decide
  simp only [viewFields, lookup?_putShown, lookup?_removeField]
  split_ifs <;> simp_all

theorem nodup_putShown {key : Text} {text : Option Text} {fields : List Field}
    (h : (fields.map (·.name)).Nodup) : ((putShown key text fields).map (·.name)).Nodup := by
  cases text with
  | none => exact h
  | some text => exact nodup_replaceValues h

theorem nodup_viewFields (h : Header) (sender primary cc : Option Text) :
    ((viewFields h sender primary cc).map (·.name)).Nodup :=
  nodup_putShown (nodup_putShown (nodup_putShown (nodup_removeField (nodup_removeField
    (nodup_removeField (nodup_removeField (nodup_gather _)))))))

end Email

end Mailroom
