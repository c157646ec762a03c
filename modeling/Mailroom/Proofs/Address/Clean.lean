import Mailroom.Proofs.Address.EncodedWord
import Mailroom.Proofs.Header.Clean
import Mailroom.Proofs.Perform

/-!
# Addresses without breaks

* `AddressList.isUnbroken_of_parse`: whatever address is read has no break in it;
* `AddressList.mem_render?`: what stands in addresses as they are written;
* `AddressList.isUnbroken_render?`, `AddressList.isAscii_render?`: no break is brought in when they
  are written, and nothing but ASCII.
-/

namespace Mailroom

/-- An address has no break in any part. -/
def Address.IsUnbroken (a : Address) : Prop := a.address.IsUnbroken ∧ a.name.IsUnbroken

theorem CodePoint.isBlank_of_isBreak {c : CodePoint} (h : c.IsBreak) : c.isBlank = true := by
  unfold isBlank
  rcases h with h | h <;> rw [h] <;> decide

namespace Text

/-- Beside the text itself, only marks and backslashes stand in a quotation. -/
theorem mem_inQuotes {t : Text} {d : CodePoint} (h : d ∈ t.inQuotes) :
    d ∈ t ∨ d = CodePoint.ofChar '"' ∨ d = CodePoint.ofChar '\\' := by
  simp only [inQuotes, List.mem_append, List.mem_singleton, List.mem_flatMap] at h
  rcases h with (rfl | ⟨c, hc, h⟩) | rfl
  · exact .inr (.inl rfl)
  · split at h
    · rcases List.mem_cons.1 h with rfl | h
      · exact .inr (.inr rfl)
      · exact .inl (List.mem_singleton.1 h ▸ hc)
    · exact .inl (List.mem_singleton.1 h ▸ hc)
  · exact .inr (.inl rfl)

theorem isUnbroken_inQuotes {t : Text} (h : t.IsUnbroken) : t.inQuotes.IsUnbroken := by
  intro d hd
  rcases mem_inQuotes hd with hd | rfl | rfl
  · exact h d hd
  · decide
  · decide

end Text

/-! ### Reading -/

namespace Address

theorem isUnbroken_of_hasLineBreak {p : Parts} (h : p.hasLineBreak = false) :
    p.address.IsUnbroken := by
  have all : ∀ c ∈ p.name ++ p.localPart ++ p.domain, ¬ c.IsBreak := by
    intro c hc hbreak
    have := List.any_eq_false.1 h c hc
    simp only [Bool.or_eq_true, beq_iff_eq] at this
    exact this hbreak
  rw [List.forall_mem_append, List.forall_mem_append] at all
  obtain ⟨⟨name, localPart⟩, domain⟩ := all
  have written : p.writtenLocal.IsUnbroken := by
    unfold Parts.writtenLocal
    split
    · exact Text.isUnbroken_inQuotes localPart
    · exact localPart
  refine ⟨?_, name⟩
  show p.spec.IsUnbroken
  unfold Parts.spec
  split
  · split
    · decide
    · exact written
  · exact Text.isUnbroken_append.2 ⟨Text.isUnbroken_append.2 ⟨written, by decide⟩, domain⟩

theorem hasLineBreak_of_mailboxParts {value : Text} {m : Mailbox} {p : Parts}
    (e : mailboxParts value m = .ok p) : p.hasLineBreak = false := by
  obtain ⟨parts, -, e⟩ := bind_eq_ok_iff.1 e
  split at e
  · cases e
  · next unbroken =>
    cases e
    simpa using unbroken

theorem forall_of_memberParts {P : Parts → Prop} {value : Text} (empty : P ⟨[], [], []⟩)
    (mailbox : ∀ {m p}, mailboxParts value m = .ok p → P p) {items : List Member}
    {ps : List Parts} (e : memberParts value items = .ok ps) : ∀ p ∈ ps, P p := by
  induction items generalizing ps with
  | nil =>
    cases e
    exact fun p hp => (by cases hp)
  | cons item items ih =>
    cases item with
    | filler f => exact ih e
    | invalid =>
      obtain ⟨rest, hrest, e⟩ := bind_eq_ok_iff.1 e
      cases e
      exact List.forall_mem_cons.2 ⟨empty, ih hrest⟩
    | mailbox m =>
      obtain ⟨first, hfirst, e⟩ := bind_eq_ok_iff.1 e
      obtain ⟨rest, hrest, e⟩ := bind_eq_ok_iff.1 e
      cases e
      exact List.forall_mem_cons.2 ⟨mailbox hfirst, ih hrest⟩

/-- Whatever is true of the parts of every mailbox, and where there are none, is true of all that is
taken from the entries of a list. -/
theorem forall_of_blocks {P : Parts → Prop} {value : Text} (empty : P ⟨[], [], []⟩)
    (mailbox : ∀ {m p}, mailboxParts value m = .ok p → P p) {entries : List Entry}
    {bs : List Block} (e : blocks value entries = .ok bs) : ∀ b ∈ bs, ∀ p ∈ b.members, P p := by
  induction entries generalizing bs with
  | nil =>
    cases e
    exact fun b hb => (by cases hb)
  | cons entry entries ih =>
    cases entry with
    | filler f => exact ih e
    | invalid =>
      obtain ⟨rest, hrest, e⟩ := bind_eq_ok_iff.1 e
      cases e
      exact List.forall_mem_cons.2
        ⟨fun p hp => (by rw [List.mem_singleton.1 hp]; exact empty), ih hrest⟩
    | mailbox m =>
      obtain ⟨first, hfirst, e⟩ := bind_eq_ok_iff.1 e
      obtain ⟨rest, hrest, e⟩ := bind_eq_ok_iff.1 e
      cases e
      refine List.forall_mem_cons.2 ⟨fun p hp => ?_, ih hrest⟩
      rw [List.mem_singleton.1 hp]
      exact mailbox hfirst
    | group g excess =>
      obtain ⟨name, -, e⟩ := bind_eq_ok_iff.1 e
      cases excess with
      | true => cases e
      | false =>
        obtain ⟨members, hmembers, e⟩ := bind_eq_ok_iff.1 e
        obtain ⟨rest, hrest, e⟩ := bind_eq_ok_iff.1 e
        cases e
        exact List.forall_mem_cons.2 ⟨forall_of_memberParts empty mailbox hmembers, ih hrest⟩

theorem domain_of_parts {m : Mailbox} {p : Parts} (e : m.parts = .ok p) :
    p.domain = ((m.spec?.bind (·.domain)).map Domain.text).getD [] := by
  unfold Mailbox.parts at e
  dsimp only at e
  split at e <;> obtain ⟨name, -, e⟩ := bind_eq_ok_iff.1 e <;> split at e <;>
    obtain ⟨localPart, -, e⟩ := bind_eq_ok_iff.1 e <;> cases e <;> simp only [*]

/-- No blank is left in a domain. -/
theorem isBlank_domain_of_mailboxParts {value : Text} {m : Mailbox} {p : Parts}
    (e : mailboxParts value m = .ok p) : ∀ c ∈ p.domain, c.isBlank = false := by
  obtain ⟨parts, hparts, e⟩ := bind_eq_ok_iff.1 e
  split at e
  · cases e
  cases e
  intro c hc
  rw [domain_of_parts (mapError_eq_ok_iff.1 hparts)] at hc
  cases hd : m.spec?.bind (·.domain) with
  | none =>
    rw [hd] at hc
    cases hc
  | some domain =>
    rw [hd] at hc
    simpa using (List.mem_filter.1 hc).2

/-- The parts of an address that has been read: both are there, without breaks, and the domain is
without blanks. -/
structure Parts.IsWhole (p : Parts) : Prop where
  localPart : p.localPart ≠ []
  domain : p.domain ≠ []
  unbroken : p.hasLineBreak = false
  unblank : ∀ c ∈ p.domain, c.isBlank = false

end Address

/-- A list is read if it is not blank, can be written in octets, has no defect, and every address in
it has both parts. -/
theorem AddressList.parse_eq_ok_iff {value : Text} {l : AddressList} :
    AddressList.parse value = .ok l ↔ value.isBlank = false ∧ ∃ listing bs,
      Address.Listing.read value = .ok listing ∧ Address.blocks value listing.entries = .ok bs ∧
        Address.firstUnencodable? 0 (Text.join ", " (bs.map (·.plain))) = none ∧
        listing.defects = [] ∧
        (∀ p ∈ bs.flatMap (·.members), p.localPart ≠ [] ∧ p.domain ≠ []) ∧
        l = (bs.flatMap (·.members)).map (·.address) := by
  unfold AddressList.parse
  constructor
  · intro e
    split at e
    · cases e
    next filled =>
      obtain ⟨listing, hlisting, e⟩ := bind_eq_ok_iff.1 e
      obtain ⟨bs, hbs, e⟩ := bind_eq_ok_iff.1 e
      split at e
      · cases e
      next octets =>
        split at e
        · cases e
        next sound =>
          dsimp only at e
          split at e
          · cases e
          next both =>
            cases e
            refine ⟨Bool.eq_false_iff.2 filled, listing, bs, mapError_eq_ok_iff.1 hlisting, hbs,
              octets, List.head?_eq_none_iff.1 sound, fun p hp => ?_, rfl⟩
            have := List.any_eq_false.1 (Bool.eq_false_iff.2 both) p hp
            simpa using this
  · rintro ⟨filled, listing, bs, hlisting, hbs, octets, sound, both, rfl⟩
    have parts : (bs.flatMap (·.members)).any
        (fun p => p.localPart.isEmpty || p.domain.isEmpty) = false :=
      List.any_eq_false.2 fun p hp => by simpa using both p hp
    rw [filled, hlisting]
    simp only [Bool.false_eq_true, if_false, mapError_ok, bind, Except.bind, hbs, octets, sound,
      List.head?_nil, parts]

/-- Whatever addresses are read are made of whole parts. -/
theorem AddressList.exists_parts_of_parse {value : Text} {l : AddressList}
    (e : AddressList.parse value = .ok l) :
    ∃ ps : List Address.Parts, l = ps.map (·.address) ∧ ∀ p ∈ ps, p.IsWhole := by
  obtain ⟨-, listing, bs, -, hbs, -, -, both, rfl⟩ := AddressList.parse_eq_ok_iff.1 e
  refine ⟨_, rfl, fun p hp => ?_⟩
  obtain ⟨b, hb, hmem⟩ := List.mem_flatMap.1 hp
  have taken : p.hasLineBreak = false ∧ ∀ c ∈ p.domain, c.isBlank = false :=
    Address.forall_of_blocks
      (P := fun p => p.hasLineBreak = false ∧ ∀ c ∈ p.domain, c.isBlank = false)
      ⟨rfl, fun c hc => by cases hc⟩ (fun e =>
        ⟨Address.hasLineBreak_of_mailboxParts e, Address.isBlank_domain_of_mailboxParts e⟩)
      hbs b hb p hmem
  exact ⟨(both p hp).1, (both p hp).2, taken.1, taken.2⟩

theorem Header.exists_parts_of_addresses {h : Header} {field : Text} {l : AddressList}
    (e : h.addresses field = .ok l) :
    ∃ ps : List Address.Parts, l = ps.map (·.address) ∧ ∀ p ∈ ps, p.IsWhole := by
  have none : ∃ ps : List Address.Parts, ([] : AddressList) = ps.map (·.address) ∧
      ∀ p ∈ ps, p.IsWhole := ⟨[], rfl, fun p hp => by cases hp⟩
  unfold Header.addresses at e
  split at e
  · cases e
    exact none
  · split at e
    · cases e
      exact none
    · exact AddressList.exists_parts_of_parse e

/-- Whatever address is read has no break in it. -/
theorem AddressList.isUnbroken_of_parse {value : Text} {l : AddressList}
    (e : AddressList.parse value = .ok l) : ∀ a ∈ l, a.IsUnbroken := by
  obtain ⟨ps, rfl, whole⟩ := AddressList.exists_parts_of_parse e
  intro a ha
  obtain ⟨p, hp, rfl⟩ := List.mem_map.1 ha
  exact Address.isUnbroken_of_hasLineBreak (whole p hp).unbroken

theorem Address.isUnbroken_of_parse {value : Text} {a : Address} (e : Address.parse value = .ok a) :
    a.IsUnbroken := by
  obtain ⟨l, hl, e⟩ := bind_eq_ok_iff.1 e
  have unbroken := AddressList.isUnbroken_of_parse hl
  split at e
  · cases e
    exact unbroken a List.mem_cons_self
  · cases e

theorem Address.isUnbroken_of_mapM_parse {words : List Text} {l : AddressList}
    (e : words.mapM Address.parse = .ok l) : ∀ a ∈ l, a.IsUnbroken := by
  intro a ha
  obtain ⟨word, -, parses⟩ := exists_of_mem_mapM e ha
  exact Address.isUnbroken_of_parse parses

theorem Header.isUnbroken_of_addresses {h : Header} {field : Text} {l : AddressList}
    (e : h.addresses field = .ok l) : ∀ a ∈ l, a.IsUnbroken := by
  obtain ⟨ps, rfl, whole⟩ := Header.exists_parts_of_addresses e
  intro a ha
  obtain ⟨p, hp, rfl⟩ := List.mem_map.1 ha
  exact Address.isUnbroken_of_hasLineBreak (whole p hp).unbroken

/-! ### Writing -/

namespace EncodedWord

/-- An encoded word is ASCII and has no blank in it. -/
theorem mem_encode {octets : Octets} {c : CodePoint} (h : c ∈ encode octets) :
    c.isAscii = true ∧ c.isBlank = false := by
  have marks : ∀ c ∈ Text.ofString "=?utf-8?b?" ++ Text.ofString "=?utf-8?q?" ++
      Text.ofString "?=", c.isAscii = true ∧ c.isBlank = false := by decide
  simp only [List.forall_mem_append] at marks
  obtain ⟨⟨base64, quoted⟩, last⟩ := marks
  unfold encode at h
  dsimp only at h
  split at h <;> rcases List.mem_append.1 h with h | h
  · rcases List.mem_append.1 h with h | h
    · exact base64 c h
    · have letter := (isLetters_base64 octets).letter c h
      exact ⟨letter.1, letter.2.1⟩
  · exact last c h
  · rcases List.mem_append.1 h with h | h
    · exact quoted c h
    · have letter := (isLetters_quoted octets).letter c h
      exact ⟨letter.1, letter.2.1⟩
  · exact last c h

end EncodedWord

/-- What stands in an address as it is written: the address itself, a name of its own letters, and
ASCII marks that are no breaks. -/
theorem Address.mem_render? {a : Address} {t : Text} (e : a.render? = some t) {c : CodePoint}
    (h : c ∈ t) :
    c ∈ a.address ∨ (c ∈ a.name ∧ a.name.isAscii = true) ∨ (c.isAscii = true ∧ ¬ c.IsBreak) := by
  have marks : ∀ c ∈ Text.ofString "<" ++ Text.ofString ">" ++ Text.ofString " " ++
      Text.ofString "\"\\", c.isAscii = true ∧ ¬ c.IsBreak := by decide
  simp only [List.forall_mem_append] at marks
  obtain ⟨⟨⟨opening, closing⟩, space⟩, quotes⟩ := marks
  have bracketed {c : CodePoint} (h : c ∈ a.bracketed) :
      c ∈ a.address ∨ (c.isAscii = true ∧ ¬ c.IsBreak) := by
    rcases List.mem_append.1 h with h | h
    · rcases List.mem_append.1 h with h | h
      · exact .inr (opening c h)
      · exact .inl h
    · exact .inr (closing c h)
  unfold render? at e
  split at e
  · cases e
    exact (bracketed h).imp_right .inr
  · split at e
    · next ascii =>
      cases e
      rcases List.mem_append.1 h with h | h
      · rcases List.mem_append.1 h with h | h
        · rcases Text.mem_inQuotes h with h | rfl | rfl
          · exact .inr (.inl ⟨h, ascii⟩)
          · exact .inr (.inr (quotes _ (by decide)))
          · exact .inr (.inr (quotes _ (by decide)))
        · exact .inr (.inr (space c h))
      · exact (bracketed h).imp_right .inr
    · obtain ⟨octets, -, rfl⟩ := Option.map_eq_some_iff.1 e
      rcases List.mem_append.1 h with h | h
      · rcases List.mem_append.1 h with h | h
        · obtain ⟨ascii, unblank⟩ := EncodedWord.mem_encode h
          refine .inr (.inr ⟨ascii, fun isBreak => ?_⟩)
          rw [CodePoint.isBlank_of_isBreak isBreak] at unblank
          cases unblank
        · exact .inr (.inr (space c h))
      · exact (bracketed h).imp_right .inr

/-- What stands in addresses as they are written. -/
theorem AddressList.mem_render? {l : AddressList} {t : Text} (e : AddressList.render? l = some t)
    {c : CodePoint} (h : c ∈ t) :
    (∃ a ∈ l, c ∈ a.address ∨ (c ∈ a.name ∧ a.name.isAscii = true)) ∨
      (c.isAscii = true ∧ ¬ c.IsBreak) := by
  obtain ⟨texts, htexts, rfl⟩ := Option.map_eq_some_iff.1 e
  clear e
  have comma : ∀ c ∈ Text.ofString ",", c.isAscii = true ∧ ¬ c.IsBreak := by decide
  rcases Text.mem_join h with h | ⟨piece, hpiece, hc⟩
  · exact .inr (comma c h)
  · clear h
    induction l generalizing texts with
    | nil =>
      cases htexts
      cases hpiece
    | cons a l ih =>
      obtain ⟨first, rest, hfirst, hrest, rfl⟩ := AddressList.renderEach?_cons_eq_some_iff.1 htexts
      rcases List.mem_cons.1 hpiece with rfl | hpiece
      · rcases Address.mem_render? hfirst hc with address | name | mark
        · exact .inl ⟨a, List.mem_cons_self, .inl address⟩
        · exact .inl ⟨a, List.mem_cons_self, .inr name⟩
        · exact .inr mark
      · exact (ih rest hrest hpiece).imp_left fun ⟨b, hb, part⟩ =>
          ⟨b, List.mem_cons_of_mem a hb, part⟩

/-- No break is brought in when addresses are written. -/
theorem AddressList.isUnbroken_render? {l : AddressList} (h : ∀ a ∈ l, a.IsUnbroken) {t : Text}
    (e : AddressList.render? l = some t) : t.IsUnbroken := by
  intro c hc
  rcases AddressList.mem_render? e hc with ⟨a, ha, address | ⟨name, -⟩⟩ | ⟨-, unbroken⟩
  · exact (h a ha).1 c address
  · exact (h a ha).2 c name
  · exact unbroken

/-- Addresses that are ASCII themselves are written in ASCII, whatever their names. -/
theorem AddressList.isAscii_render? {l : AddressList} (h : ∀ a ∈ l, a.address.isAscii = true)
    {t : Text} (e : AddressList.render? l = some t) : t.isAscii = true := by
  refine List.all_eq_true.2 fun c hc => ?_
  rcases AddressList.mem_render? e hc with ⟨a, ha, address | ⟨name, ascii⟩⟩ | ⟨ascii, -⟩
  · exact List.all_eq_true.1 (h a ha) c address
  · exact List.all_eq_true.1 ascii c name
  · exact ascii

end Mailroom
