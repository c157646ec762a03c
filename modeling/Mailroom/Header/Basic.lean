import Mailroom.Address.Reader
import Mailroom.Header.Name

/-!
# Headers

The fields of a message in order of arrival. A field may occur several times; all its values
are kept, and only the first is ever read or written back.

* `Field`: a canonical name with its values, of which there is at least one;
* `Header`: the fields, a mark that forbids changes, and a count of the changes made;
* `Header.first`, `Header.values`, `Header.addresses`: what a field holds;
* `Header.add`, `Header.set`, `Header.delete`: the changes;
* `Header.clone`: a copy that may be changed.
-/

namespace Mailroom

/-- A field: its canonical name and its values. -/
structure Field where
  name : Text
  first : Text
  more : List Text
deriving DecidableEq

/-- All values of a field. -/
def Field.values (f : Field) : List Text := f.first :: f.more

/-- The fields of a message. -/
structure Header where
  fields : List Field
  isReadOnly : Bool
  revision : Nat
deriving DecidableEq

/-- A change was refused because the header is read-only. -/
inductive HeaderFault where
  | readOnly
deriving DecidableEq

/-- The wording of a refusal. -/
def HeaderFault.message : HeaderFault → Text
  | readOnly => "header is read-only"

namespace Header

/-- No fields, and changes allowed. -/
def empty : Header := ⟨[], false, 0⟩

instance : Inhabited Header := ⟨empty⟩

/-- The field of a canonical name. -/
def lookup? (fields : List Field) (name : Text) : Option Field :=
  fields.find? fun f => f.name = name

/-- The field that a name in any form refers to. -/
def find? (h : Header) (name : Text) : Option Field := lookup? h.fields (FieldName.canonical name)

/-- The first value of a field, or nothing. -/
def first (h : Header) (name : Text) : Text := ((h.find? name).map (·.first)).getD []

/-- All values of a field. -/
def values (h : Header) (name : Text) : List Text := ((h.find? name).map Field.values).getD []

/-- The field is there. -/
def contains (h : Header) (name : Text) : Bool := (h.find? name).isSome

/-- The fields with values put after those that a canonical name has already. -/
def appendValues (name first : Text) (more : List Text) : List Field → List Field
  | [] => [⟨name, first, more⟩]
  | f :: fields =>
    if f.name = name then { f with more := f.more ++ first :: more } :: fields
    else f :: appendValues name first more fields

/-- The fields with a single value for a canonical name, in its place if it has one. -/
def replaceValues (name value : Text) : List Field → List Field
  | [] => [⟨name, value, []⟩]
  | f :: fields =>
    if f.name = name then ⟨name, value, []⟩ :: fields else f :: replaceValues name value fields

/-- The fields without a canonical name. -/
def removeField (name : Text) (fields : List Field) : List Field :=
  fields.filter fun f => f.name ≠ name

/-- The fields from names in any form with their values; a name without values is left out, and
names of one field are put together. -/
def gather (fields : List (Text × List Text)) : List Field :=
  fields.foldl (fun acc (name, values) => match values with
    | [] => acc
    | first :: more => appendValues (FieldName.canonical name) first more acc) []

/-- A header with given fields. -/
def ofFields (fields : List (Text × List Text)) : Header := ⟨gather fields, false, 0⟩

/-- The header with one more value of a field. -/
def add (h : Header) (name value : Text) : Except HeaderFault Header :=
  if h.isReadOnly then .error .readOnly
  else .ok { h with
    fields := appendValues (FieldName.canonical name) value [] h.fields
    revision := h.revision + 1 }

/-- The header with a single value of a field in place of all it has. -/
def set (h : Header) (name value : Text) : Except HeaderFault Header :=
  if h.isReadOnly then .error .readOnly
  else .ok { h with
    fields := replaceValues (FieldName.canonical name) value h.fields
    revision := h.revision + 1 }

/-- The header without a field. Only a field that is there counts as a change. -/
def delete (h : Header) (name : Text) : Except HeaderFault Header :=
  if h.isReadOnly then .error .readOnly
  else if h.contains name then
    .ok { h with
      fields := removeField (FieldName.canonical name) h.fields
      revision := h.revision + 1 }
  else .ok h

/-- A copy that may be changed. Every name is put into canonical form once more. -/
def clone (h : Header) : Header := ofFields (h.fields.map fun f => (f.name, f.values))

/-- The header, closed to changes. -/
def freeze (h : Header) : Header := { h with isReadOnly := true }

/-- The addresses of a field. A field that is not there, or blank, has none. -/
def addresses (h : Header) (name : Text) : Except Address.Failure AddressList :=
  match h.find? name with
  | none => .ok []
  | some f => if f.first.isBlank then .ok [] else AddressList.parse f.first

/-- The first address of a field. -/
def address (h : Header) (name : Text) : Except Address.Failure (Option Address) :=
  (h.addresses name).map List.head?

/-- A field put in front of the first one whose name comes after its own. -/
def insertSorted (f : Field) : List Field → List Field
  | [] => [f]
  | g :: fields =>
    if Text.before f.name g.name then f :: g :: fields else g :: insertSorted f fields

/-- The fields in order of their names. -/
def sorted (h : Header) : List Field := h.fields.foldr insertSorted []

/-- The names of the fields in order. -/
def names (h : Header) : List Text := h.sorted.map (·.name)

/-- How many fields there are. -/
def size (h : Header) : Nat := h.fields.length

/-- The header as it is shown in messages, with its fields in order of arrival. -/
def shown (h : Header) : Text :=
  let field (f : Field) : Text := f.name.quoted ++ ": " ++ Text.quotedList f.values
  "Header(\x7b" ++ Text.join ", " (h.fields.map field) ++ "\x7d)"

@[simp] theorem find?_empty (name : Text) : empty.find? name = none := rfl

theorem revision_of_add {h h' : Header} {name value : Text} (e : h.add name value = .ok h') :
    h'.revision = h.revision + 1 := by
  unfold add at e
  split at e
  · simp at e
  · simp only [Except.ok.injEq] at e
    rw [← e]

theorem revision_of_set {h h' : Header} {name value : Text} (e : h.set name value = .ok h') :
    h'.revision = h.revision + 1 := by
  unfold set at e
  split at e
  · simp at e
  · simp only [Except.ok.injEq] at e
    rw [← e]

@[simp] theorem isReadOnly_clone (h : Header) : h.clone.isReadOnly = false := rfl

@[simp] theorem isReadOnly_freeze (h : Header) : h.freeze.isReadOnly = true := rfl

end Header

end Mailroom
