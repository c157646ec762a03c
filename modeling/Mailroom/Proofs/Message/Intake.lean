import Mailroom.Proofs.Address.Clean
import Mailroom.Proofs.Message.Reachable
import Mailroom.Proofs.Message.View
import Mailroom.Proofs.Text.Utf8

/-!
# Messages without stray breaks

* `Email.isClean_read`: a message that is read has a clean header, and a body of lines;
* `Email.isClean_reconcile`: a view shows no break if the header has none outside of its address
  fields and these can be read.
-/

namespace Mailroom

/-! ### Reading -/

namespace Framing

/-- The lines between line ends have no break in them. -/
theorem isUnbroken_of_mem_split {octets line : Octets} (h : line ∈ split octets) :
    line.IsUnbroken := by
  have empty : Octets.IsUnbroken [] := fun b hb => (by cases hb)
  have ne {b : UInt8} (hb : ¬ b.toNat = 0x0A) (hb' : ¬ b.toNat = 0x0D) : b ≠ 0x0D ∧ b ≠ 0x0A := by
    refine ⟨?_, ?_⟩
    · rintro rfl
      exact hb' rfl
    · rintro rfl
      exact hb rfl
  fun_induction split octets generalizing line with
  | case1 =>
    rw [List.mem_singleton.1 h]
    exact empty
  | case2 b rest hb ih =>
    rcases List.mem_cons.1 h with rfl | h
    · exact empty
    · exact ih h
  | case3 b c rest hb hb' hc ih =>
    rcases List.mem_cons.1 h with rfl | h
    · exact empty
    · exact ih h
  | case4 b c rest hb hb' hc ih =>
    rcases List.mem_cons.1 h with rfl | h
    · exact empty
    · exact ih h
  | case5 b hb hb' =>
    simp only [List.mem_cons, List.not_mem_nil, or_false, or_self] at h
    rw [h]
    exact empty
  | case6 b rest hb hb' first lines hsplit ih =>
    rw [hsplit] at ih
    rcases List.mem_cons.1 h with rfl | h
    · exact List.forall_mem_cons.2 ⟨ne hb hb', ih List.mem_cons_self⟩
    · exact ih (List.mem_cons_of_mem first h)
  | case7 b rest hb hb' hsplit ih =>
    rw [List.mem_singleton.1 h]
    exact List.forall_mem_cons.2 ⟨ne hb hb', empty⟩

theorem isUnbroken_of_mem_lines {octets line : Octets} (h : line ∈ lines octets) :
    line.IsUnbroken := by
  unfold lines at h
  dsimp only at h
  split at h
  · exact isUnbroken_of_mem_split ((List.dropLast_sublist _).subset h)
  · exact isUnbroken_of_mem_split h

/-- Joined lines come apart into lines, none of which has a break in it. -/
theorem isUnbroken_of_mem_crlfLines_join {lines : List Octets}
    (h : ∀ line ∈ lines, Octets.IsUnbroken line) {line : Octets}
    (hline : line ∈ crlfLines (join lines)) : line.IsUnbroken := by
  cases lines with
  | nil =>
    rw [List.mem_singleton.1 hline]
    exact fun b hb => (by cases hb)
  | cons first lines => exact ((crlfLines_join_iff (by simp)).2 h).2 line hline

end Framing

namespace Email

/-- A message that is read has a clean header and a body of lines, and may be changed. -/
theorem isClean_read {ignoreDots : Bool} {data : Octets} {e : Email}
    (h : read ignoreDots data = .ok e) :
    Header.IsClean (fun _ => True) e.header.fields ∧ e.header.isReadOnly = false ∧
      ∀ line ∈ Framing.crlfLines e.message, line.IsUnbroken := by
  obtain ⟨lines, header, hlines, hparse, rfl, -⟩ := read_eq_ok h
  have unbroken : ∀ line ∈ lines, line.IsUnbroken := by
    intro line hline
    rw [hlines] at hline
    split at hline
    · exact Framing.isUnbroken_of_mem_lines hline
    · exact Framing.isUnbroken_of_mem_lines ((List.takeWhile_sublist _).subset hline)
  refine ⟨Header.isClean_parse (fun line hline => ?_) hparse, ?_, fun line hline => ?_⟩
  · obtain ⟨octets, hoctets, rfl⟩ := List.mem_map.1 hline
    exact Utf8.isUnbroken_decodeKeeping
      (unbroken octets ((List.takeWhile_sublist _).subset hoctets))
  · obtain ⟨entries, -, e⟩ := bind_eq_ok_iff.1 hparse
    cases e
    rfl
  · refine Framing.isUnbroken_of_mem_crlfLines_join (fun l hl => unbroken l ?_) hline
    exact (List.dropWhile_sublist _).subset ((List.drop_sublist 1 _).subset hl)

/-! ### Views -/

/-- An address field that can be read is shown without a break. -/
theorem isUnbroken_canonicalField {h : Header} {field : Text} {addresses : AddressList}
    (parses : h.addresses field = .ok addresses) {text : Text}
    (e : canonicalField h field = .ok (some text)) : text.IsUnbroken := by
  have unbroken := Header.isUnbroken_of_addresses parses
  rw [canonicalField_of_parses parses] at e
  split at e
  · cases e
  · split at e
    · next rendered =>
      cases e
      exact AddressList.isUnbroken_render?
        (fun a ha => unbroken a (mem_of_mem_shownPart ha)) rendered
    · cases e

open Header in
theorem isClean_putShown {shown : Text → Prop} {key : Text} {text : Option Text}
    {fields : List Field} (h : IsClean shown fields) (name : key.IsName)
    (unbroken : ∀ t, text = some t → t.IsUnbroken) : IsClean shown (putShown key text fields) := by
  cases text with
  | none => exact h
  | some t => exact isClean_replaceValues h name fun _ => unbroken t rfl

/-- The name of a field that a view shows in a form of its own or not at all. -/
def IsAddressField (name : Text) : Prop :=
  name = Text.ofString "From" ∨ name = Text.ofString "To" ∨ name = Text.ofString "Cc" ∨
    name = Text.ofString "Bcc"

theorem isAddressField_canonical {name : Text} (h : IsAddressField name) :
    IsAddressField (FieldName.canonical name) := by
  rcases h with rfl | rfl | rfl | rfl
  · exact .inl (by decide)
  · exact .inr (.inl (by decide))
  · exact .inr (.inr (.inl (by decide)))
  · exact .inr (.inr (.inr (by decide)))

open Header in
/-- A view shows no break if the header has none outside of its address fields and these can be
read. -/
theorem isClean_reconcile {h view : Header} {shown : Text → Prop}
    (clean : IsClean (fun name => ¬ IsAddressField name ∧ shown name) h.fields)
    (hidden : ∀ name, shown (FieldName.canonical name) → shown name)
    (parses : ∀ field ∈ shownFields, ∃ addresses, h.addresses field = .ok addresses)
    (e : reconcile h = .ok view) : IsClean shown view.fields := by
  obtain ⟨sender, main, cc, hs, ht, hc, fields⟩ := reconcile_eq_ok e
  have canonical : ∀ field ∈ shownFields, ∀ text, canonicalField h field = .ok (some text) →
      text.IsUnbroken := fun field hfield text e => by
    obtain ⟨addresses, haddresses⟩ := parses field hfield
    exact isUnbroken_canonicalField haddresses e
  have copied : IsClean (fun name => ¬ IsAddressField name ∧ shown name) h.clone.fields :=
    clean.clone fun name ⟨notAddress, hname⟩ =>
      ⟨fun isAddress => notAddress (isAddressField_canonical isAddress), hidden name hname⟩
  -- what is left of the copy without the address fields is clean under any other name
  have bare : IsClean shown (removeField "Bcc" (removeField "Cc" (removeField "To"
      (removeField "From" h.clone.fields)))) := by
    refine ⟨fun f hf => copied.names f ?_, fun f hf hname => copied.values f ?_ ⟨?_, hname⟩⟩
    all_goals
      simp only [removeField, List.mem_filter, decide_eq_true_eq] at hf
      obtain ⟨⟨⟨⟨hf, from_⟩, to_⟩, cc_⟩, bcc_⟩ := hf
    · exact hf
    · exact hf
    · rintro (h | h | h | h)
      · exact from_ h
      · exact to_ h
      · exact cc_ h
      · exact bcc_ h
  rw [fields]
  refine isClean_putShown (isClean_putShown (isClean_putShown bare (by decide) ?_) (by decide) ?_)
    (by decide) ?_
  · rintro t rfl
    exact canonical "from" (by decide) t hs
  · rintro t rfl
    exact canonical "to" (by decide) t ht
  · rintro t rfl
    exact canonical "cc" (by decide) t hc

end Email

end Mailroom
