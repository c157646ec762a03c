import Mailroom.Proofs.Address.Clean
import Mailroom.Proofs.Address.Listing
import Mailroom.Proofs.Text.Blank

/-!
# Reading addresses back

* `AddressList.exists_render?_iff`: addresses can be written if their names have no surrogates;
* `AddressList.isTrimmed_render?`: they are written without blanks at the ends;
* `AddressList.parse_rendered`: addresses that have been written are read as they were;
* `AddressList.isLegible_of_parse_rendered`: if the dots of a local part are in the wrong places,
  none is read at all;
* `AddressList.parse_rendered_ne_breakdown`: but reading does not break down either.
-/

namespace Mailroom

/-! ### What can be written -/

theorem Address.exists_render?_iff {a : Address} :
    (∃ text, a.render? = some text) ↔ a.name.any CodePoint.isSurrogate = false := by
  unfold render?
  split
  · next unnamed =>
    rw [List.isEmpty_iff.1 unnamed]
    exact ⟨fun _ => rfl, fun _ => ⟨_, rfl⟩⟩
  · split
    · next ascii =>
      refine ⟨fun _ => List.any_eq_false.2 fun c hc => ?_, fun _ => ⟨_, rfl⟩⟩
      rw [CodePoint.isSurrogate_of_isAscii (List.all_eq_true.1 ascii c hc)]
      exact Bool.false_ne_true
    · unfold Utf8.encodeStrict?
      cases a.name.any CodePoint.isSurrogate <;> simp

theorem AddressList.exists_render?_iff {l : AddressList} :
    (∃ text, AddressList.render? l = some text) ↔
      ∀ a ∈ l, a.name.any CodePoint.isSurrogate = false := by
  have each : (∃ texts, AddressList.renderEach? l = some texts) ↔
      ∀ a ∈ l, a.name.any CodePoint.isSurrogate = false := by
    induction l with
    | nil => exact ⟨fun _ a ha => (by cases ha), fun _ => ⟨[], rfl⟩⟩
    | cons a l ih =>
      rw [List.forall_mem_cons, ← ih, ← Address.exists_render?_iff]
      constructor
      · rintro ⟨texts, e⟩
        obtain ⟨t, ts, ht, hts, -⟩ := AddressList.renderEach?_cons_eq_some_iff.1 e
        exact ⟨⟨t, ht⟩, ts, hts⟩
      · rintro ⟨⟨t, ht⟩, ts, hts⟩
        exact ⟨t :: ts, AddressList.renderEach?_cons_eq_some_iff.2 ⟨t, ts, ht, hts, rfl⟩⟩
  rw [← each]
  constructor
  · rintro ⟨text, e⟩
    obtain ⟨texts, e, -⟩ := Option.map_eq_some_iff.1 e
    exact ⟨texts, e⟩
  · rintro ⟨texts, e⟩
    rw [AddressList.render?, e]
    exact ⟨_, rfl⟩

theorem Address.mapError_failureOf_eq_breakdown_iff {α : Type} {x : Except Halt α} {value : Text}
    {cause : Breakdown} :
    x.mapError (failureOf value) = .error (.breakdown cause) ↔ x = .error (.breakdown cause) := by
  rcases x with (_ | _ | _ | cause') | a <;> simp [Except.mapError, failureOf]

/-- Reading breaks down while the entries are found, or when their parts are taken. -/
theorem AddressList.parse_eq_breakdown {value : Text} {cause : Address.Breakdown}
    (e : AddressList.parse value = .error (.breakdown cause)) :
    Address.Listing.read value = .error (.breakdown cause) ∨
      ∃ listing, Address.Listing.read value = .ok listing ∧
        Address.blocks value listing.entries = .error (.breakdown cause) := by
  unfold AddressList.parse at e
  split at e
  · cases e
  rcases bind_eq_error_iff.1 e with e | ⟨listing, hlisting, e⟩
  · exact .inl (Address.mapError_failureOf_eq_breakdown_iff.1 e)
  rcases bind_eq_error_iff.1 e with e | ⟨bs, -, e⟩
  · exact .inr ⟨listing, mapError_eq_ok_iff.1 hlisting, e⟩
  -- what is wrong with a list whose parts have been taken is reported
  split at e
  · cases e
  split at e
  · cases e
  dsimp only at e
  split at e <;> cases e

/-! ### What has octets -/

namespace Address

theorem hasOctets_of_isAscii {c : CodePoint} (h : c.isAscii = true) : c.HasOctets :=
  CodePoint.hasOctets_of_isSurrogate (CodePoint.isSurrogate_of_isAscii h)

theorem isEncodable_of_isAscii {t : Text} (h : t.isAscii = true) : t.IsEncodable :=
  fun c hc => hasOctets_of_isAscii (List.all_eq_true.1 h c hc)

theorem firstUnencodable?_eq_none_iff {t : Text} {start : Nat} :
    firstUnencodable? start t = none ↔ t.IsEncodable := by
  induction t generalizing start with
  | nil => simp [firstUnencodable?, Text.IsEncodable]
  | cons c t ih =>
    rw [firstUnencodable?]
    split
    · next h =>
      refine ⟨fun e => (by cases e), fun all => ?_⟩
      rw [all c List.mem_cons_self] at h
      cases h
    · next h =>
      rw [ih, Text.IsEncodable, Text.IsEncodable, List.forall_mem_cons]
      exact (and_iff_right (Bool.eq_false_iff.2 h)).symm

/-! ### What was read -/

theorem mem_join_of_mem {separator piece : Text} {pieces : List Text} (h : piece ∈ pieces)
    {c : CodePoint} (hc : c ∈ piece) : c ∈ Text.join separator pieces := by
  induction pieces with
  | nil => cases h
  | cons t pieces ih =>
    cases pieces with
    | nil => exact List.mem_singleton.1 h ▸ hc
    | cons u pieces =>
      rw [Text.join]
      rcases List.mem_cons.1 h with rfl | h
      · exact List.mem_append_left _ (List.mem_append_left _ hc)
      · exact List.mem_append_right _ (ih h)

theorem bracket_mem_of_render? {a : Address} {text : Text} (e : a.render? = some text) :
    CodePoint.ofChar '<' ∈ text := by
  have bracket : CodePoint.ofChar '<' ∈ a.bracketed := by simp [bracketed, Text.ofString]
  unfold render? at e
  split at e
  · cases e
    exact bracket
  · split at e
    · cases e
      exact List.mem_append_right _ bracket
    · obtain ⟨octets, -, rfl⟩ := Option.map_eq_some_iff.1 e
      exact List.mem_append_right _ bracket

theorem mem_plain_of_mem_spec {p : Parts} (domain : p.domain ≠ []) {c : CodePoint}
    (h : c ∈ p.spec) : c ∈ p.plain := by
  unfold Parts.plain
  dsimp only
  split
  · exact h
  · have whole : p.spec ≠ Text.ofString "<>" := by
      intro e
      have sign : CodePoint.ofChar '@' ∈ p.spec := by
        unfold Parts.spec
        rw [if_neg (by simpa using domain)]
        exact List.mem_append_left _ (List.mem_append_right _ List.mem_cons_self)
      rw [e] at sign
      exact absurd sign (by decide)
    rw [if_neg whole]
    simp [h]

theorem mem_plain_of_mem_member {b : Block} {p : Parts} (hp : p ∈ b.members) {c : CodePoint}
    (hc : c ∈ p.plain) : c ∈ b.plain := by
  have members : c ∈ Text.join ", " (b.members.map Parts.plain) :=
    mem_join_of_mem (List.mem_map_of_mem hp) hc
  unfold Block.plain
  split
  · exact members
  · dsimp only
    rw [if_neg (by simpa using List.ne_nil_of_mem members)]
    simp [members]

end Address

/-- An address is written without blanks at its ends: it begins with a bracket, a quotation mark or
an encoded word, and ends with a bracket. -/
theorem Address.isTrimmed_render? {a : Address} {text : Text} (e : a.render? = some text) :
    text ≠ [] ∧ text.IsTrimmed := by
  obtain ⟨c, t, rfl, unblank⟩ :
      ∃ c t, text = c :: (t ++ [CodePoint.ofChar '>']) ∧ c.isBlank = false := by
    unfold render? at e
    split at e
    · cases e
      exact ⟨'<', a.address, rfl, by decide⟩
    · split at e
      · cases e
        exact ⟨'"', a.name.escaped ++ [CodePoint.ofChar '"'] ++ Text.ofString " <" ++ a.address,
          by simp [Text.inQuotes_eq, bracketed, Text.ofString], by decide⟩
      · obtain ⟨octets, -, rfl⟩ := Option.map_eq_some_iff.1 e
        obtain ⟨word, encoded⟩ :
            ∃ word, EncodedWord.encode octets = CodePoint.ofChar '=' :: word := by
          unfold EncodedWord.encode
          dsimp only
          split <;> exact ⟨_, rfl⟩
        exact ⟨'=', word ++ Text.ofString " <" ++ a.address,
          by simp [encoded, bracketed, Text.ofString], by decide⟩
  exact ⟨List.cons_ne_nil _ _, Text.isTrimmed_cons_concat unblank (by decide) t⟩

theorem AddressList.isTrimmed_render? {l : AddressList} {text : Text}
    (e : AddressList.render? l = some text) : text.IsTrimmed := by
  obtain ⟨texts, each, rfl⟩ := Option.map_eq_some_iff.1 e
  have all : ∀ t ∈ texts, t ≠ [] ∧ t.IsTrimmed := by
    clear e
    induction l generalizing texts with
    | nil =>
      cases each
      exact nofun
    | cons a l ih =>
      obtain ⟨t, ts, ht, hts, rfl⟩ := AddressList.renderEach?_cons_eq_some_iff.1 each
      exact List.forall_mem_cons.2 ⟨Address.isTrimmed_render? ht, ih ts hts⟩
  exact Text.isTrimmed_join _ (fun t h => all t (List.mem_of_head? h))
    fun t h => all t (List.mem_of_getLast? h)

/-- No address is written as a blank text. -/
theorem AddressList.isBlank_of_render? {a : Address} {l : AddressList} {text : Text}
    (e : AddressList.render? (a :: l) = some text) : text.isBlank = false := by
  obtain ⟨texts, each, rfl⟩ := Option.map_eq_some_iff.1 e
  obtain ⟨t, ts, ht, -, rfl⟩ := AddressList.renderEach?_cons_eq_some_iff.1 each
  have bracket : CodePoint.ofChar '<' ∈ Text.join "," (t :: ts) :=
    Address.mem_join_of_mem List.mem_cons_self (Address.bracket_mem_of_render? ht)
  refine Bool.eq_false_iff.2 fun blank => ?_
  exact absurd (List.all_eq_true.1 blank _ bracket) (by decide)

/-- Whatever address is read has octets. -/
theorem AddressList.isEncodable_of_parse {value : Text} {l : AddressList}
    (e : AddressList.parse value = .ok l) : ∀ a ∈ l, a.address.IsEncodable := by
  obtain ⟨-, listing, bs, -, -, octets, -, both, rfl⟩ := AddressList.parse_eq_ok_iff.1 e
  intro a ha c hc
  obtain ⟨p, hp, rfl⟩ := List.mem_map.1 ha
  have domain := (both p hp).2
  obtain ⟨b, hb, hp⟩ := List.mem_flatMap.1 hp
  exact Address.firstUnencodable?_eq_none_iff.1 octets c (Address.mem_join_of_mem
    (List.mem_map_of_mem hb) (Address.mem_plain_of_mem_member hp
      (Address.mem_plain_of_mem_spec domain hc)))

/-! ### What is read again -/

namespace Text

theorem mem_squeezeAfter {before : Bool} {t : Text} {d : CodePoint}
    (h : d ∈ squeezeAfter before t) : d ∈ t ∨ d = CodePoint.ofChar ' ' := by
  induction t generalizing before with
  | nil => cases h
  | cons c t ih =>
    rw [squeezeAfter] at h
    split at h
    · exact (ih h).imp_left (List.mem_cons_of_mem c)
    split at h
    · rcases List.mem_cons.1 h with rfl | h
      · exact .inr rfl
      · exact (ih h).imp_left (List.mem_cons_of_mem c)
    · rcases List.mem_cons.1 h with rfl | h
      · exact .inl List.mem_cons_self
      · exact (ih h).imp_left (List.mem_cons_of_mem c)

end Text

namespace Address

variable {p : Parts}

theorem mem_again_name {c : CodePoint} (h : c ∈ p.again.name) :
    c ∈ p.name ∨ c = CodePoint.ofChar ' ' := by
  unfold Parts.again at h
  dsimp only at h
  split at h
  · exact .inl h
  · exact Text.mem_squeezeAfter h

theorem mem_plain {c : CodePoint} (h : c ∈ p.plain) :
    c ∈ p.name ∨ c ∈ p.spec ∨ c.isAscii = true := by
  have name : c ∈ Parts.writtenName p.name → c ∈ p.name ∨ c.isAscii = true := by
    unfold Parts.writtenName
    split
    · intro hc
      rcases Text.mem_inQuotes hc with hc | rfl | rfl
      · exact .inl hc
      · exact .inr (by decide)
      · exact .inr (by decide)
    · exact .inl
  have ascii : ∀ c ∈ Text.ofString " <" ++ Text.ofString ">", c.isAscii = true := by decide
  unfold Parts.plain at h
  dsimp only at h
  split at h
  · exact .inr (.inl h)
  · simp only [List.mem_append] at h
    rcases h with ((h | h) | h) | h
    · exact (name h).imp_right .inr
    · exact .inr (.inr (ascii c (List.mem_append_left _ h)))
    · split at h
      · cases h
      · exact .inr (.inl h)
    · exact .inr (.inr (ascii c (List.mem_append_right _ h)))

theorem mem_written {s : Text} {c : CodePoint} (h : c ∈ s) : c ∈ LocalPart.written s := by
  unfold LocalPart.written
  split
  · rw [Text.inQuotes_eq]
    refine List.mem_cons_of_mem _ (List.mem_append_left _ (List.mem_flatMap.2 ⟨c, h, ?_⟩))
    split <;> simp
  · exact h

/-- No break stands in the parts of an address if none stands in the address. -/
theorem hasLineBreak_eq_false (h : p.address.IsUnbroken) (domain : p.domain ≠ []) :
    p.hasLineBreak = false := by
  obtain ⟨address, name⟩ := h
  have address : p.spec.IsUnbroken := address
  rw [Parts.spec_of_domain domain] at address
  have all : ∀ c ∈ p.name ++ p.localPart ++ p.domain, ¬ c.IsBreak := by
    intro c hc
    simp only [List.mem_append] at hc
    rcases hc with (hc | hc) | hc
    · exact name c hc
    · exact address c (List.mem_append_left _ (mem_written hc))
    · exact address c (List.mem_append_right _ (List.mem_cons_of_mem _ hc))
  exact List.any_eq_false.2 fun c hc => by simpa [CodePoint.IsBreak] using all c hc

theorem hasLineBreak_again (h : p.address.IsUnbroken) (ordinary : p.IsOrdinary) :
    p.again.hasLineBreak = false := by
  refine hasLineBreak_eq_false ⟨h.1, fun c hc => ?_⟩ ordinary.domain.ne_nil
  rcases mem_again_name hc with hc | rfl
  · exact h.2 c hc
  · decide

/-- A name that can be written has octets. -/
theorem isEncodable_of_render? {text : Text} (e : p.address.render? = some text) :
    p.name.IsEncodable := by
  rcases Parts.render_cases e with ⟨unnamed, -⟩ | ⟨name, names, -⟩
  · rw [unnamed]
    exact fun c hc => (by cases hc)
  · cases names with
    | quoted ascii => exact isEncodable_of_isAscii ascii
    | encoded other written =>
      unfold Utf8.encodeStrict? at written
      split at written
      · cases written
      · next plain =>
        exact fun c hc => CodePoint.hasOctets_of_isSurrogate (by
          simpa using List.any_eq_false.1 (Bool.eq_false_iff.2 plain) c hc)

/-- What is written of an address in plain letters has octets if its name and the address itself
have. -/
theorem isEncodable_plain (name : p.name.IsEncodable) (spec : p.spec.IsEncodable) :
    p.plain.IsEncodable := by
  intro c hc
  rcases mem_plain hc with hc | hc | hc
  · exact name c hc
  · exact spec c hc
  · exact hasOctets_of_isAscii hc

theorem isEncodable_plain_again {text : Text} (e : p.address.render? = some text)
    (encodable : p.spec.IsEncodable) : p.again.plain.IsEncodable := by
  refine isEncodable_plain (fun c hc => ?_) encodable
  rcases mem_again_name hc with hc | rfl
  · exact isEncodable_of_render? e c hc
  · exact hasOctets_of_isAscii (by decide)

/-- What is taken from mailboxes with parts that are free of breaks. -/
theorem blocks_mailboxes {ms : List Mailbox} {ps : List Parts} (value : Text)
    (h : List.Forall₂ (fun m p => m.parts = .ok p) ms ps)
    (unbroken : ∀ p ∈ ps, p.hasLineBreak = false) :
    blocks value (ms.map .mailbox) = .ok (ps.map fun p => ⟨none, [p]⟩) := by
  induction h with
  | nil => rfl
  | @cons m p ms ps parts _ ih =>
    rw [List.forall_mem_cons] at unbroken
    have first : mailboxParts value m = .ok p := by
      unfold mailboxParts
      rw [parts]
      simp only [mapError_ok, bind, Except.bind, unbroken.1]
      rfl
    rw [List.map_cons, blocks, first, ih unbroken.2]
    rfl

/-- Taking the parts of such mailboxes does not break down, wherever their dots are. -/
theorem blocks_mailboxes_ne_breakdown {ms : List Mailbox} {ps : List Parts} (value : Text)
    (h : List.Forall₂ Mailbox.Spells ms ps) (cause : Breakdown) :
    blocks value (ms.map .mailbox) ≠ .error (.breakdown cause) := by
  induction h with
  | nil => exact fun e => (by cases e)
  | @cons m p ms ps spells _ ih =>
    intro e
    rw [List.map_cons, blocks] at e
    rcases bind_eq_error_iff.1 e with e | ⟨parts, -, e⟩
    · rcases bind_eq_error_iff.1 e with e | ⟨parts, -, e⟩
      · exact spells.holds cause (mapError_failureOf_eq_breakdown_iff.1 e)
      · split at e <;> cases e
    · rcases bind_eq_error_iff.1 e with e | ⟨rest, -, e⟩
      · exact ih e
      · cases e

/-- Each of some addresses that have been written can be written. -/
theorem render?_of_mem {ps : List Parts} {texts : List Text}
    (e : AddressList.renderEach? (ps.map Parts.address) = some texts) :
    ∀ p ∈ ps, ∃ text, p.address.render? = some text := by
  induction ps generalizing texts with
  | nil => exact fun p hp => (by cases hp)
  | cons p ps ih =>
    obtain ⟨t, ts, ht, hts, -⟩ := AddressList.renderEach?_cons_eq_some_iff.1 e
    exact List.forall_mem_cons.2 ⟨⟨t, ht⟩, ih hts⟩

end Address

namespace AddressList

variable {ps : List Address.Parts} {text : Text}

/-- A list that is read as mailboxes without a defect has the addresses that their parts make, if
these are whole, free of breaks and made of octets. -/
theorem parse_of_mailboxes {value : Text} {ms : List Address.Mailbox}
    (filled : value.isBlank = false)
    (read : Address.Listing.read value = .ok ⟨ms.map .mailbox, false⟩)
    (sound : (Address.Listing.mk (ms.map .mailbox) false).defects = [])
    (parts : List.Forall₂ (fun m p => m.parts = .ok p) ms ps)
    (unbroken : ∀ p ∈ ps, p.hasLineBreak = false) (encodable : ∀ p ∈ ps, p.plain.IsEncodable)
    (both : ∀ p ∈ ps, p.localPart ≠ [] ∧ p.domain ≠ []) :
    AddressList.parse value = .ok (ps.map (·.address)) := by
  have members :
      (ps.map fun p => (⟨none, [p]⟩ : Address.Block)).flatMap (·.members) = ps := by
    rw [List.flatMap_map]
    exact List.flatMap_singleton' ps
  refine AddressList.parse_eq_ok_iff.2 ⟨filled, _, _, read,
    Address.blocks_mailboxes value parts unbroken, ?_, sound, by rwa [members], by rw [members]⟩
  refine Address.firstUnencodable?_eq_none_iff.2 fun c hc => ?_
  have separator : ∀ c ∈ Text.ofString ", ", c.isAscii = true := by decide
  rcases Text.mem_join hc with hc | ⟨piece, hpiece, hc⟩
  · exact Address.hasOctets_of_isAscii (separator c hc)
  · rw [List.map_map] at hpiece
    obtain ⟨p, hp, rfl⟩ := List.mem_map.1 hpiece
    exact encodable p hp c hc

/-- **Addresses that have been written are read as they were**, but for blanks in their names, if
all dots are in place. -/
theorem parse_rendered (some : ps ≠ []) (ordinary : ∀ p ∈ ps, p.IsOrdinary)
    (legible : ∀ p ∈ ps, Address.LocalPart.IsLegible p.localPart)
    (unbroken : ∀ p ∈ ps, p.address.IsUnbroken) (encodable : ∀ p ∈ ps, p.spec.IsEncodable)
    (e : AddressList.render? (ps.map (·.address)) = .some text) :
    AddressList.parse text = .ok (ps.map (·.again.address)) := by
  obtain ⟨texts, htexts, rfl⟩ := Option.map_eq_some_iff.1 e
  obtain ⟨ms, hms, spells⟩ := Address.Listing.readEntries_rendered ordinary htexts (Nat.le_refl _)
  have written := Address.render?_of_mem htexts
  have filled : Text.isBlank (Text.join "," texts) = false := by
    obtain ⟨p, ps, rfl⟩ := List.exists_cons_of_ne_nil some
    exact AddressList.isBlank_of_render? e
  have parts : List.Forall₂ (fun m p => m.parts = .ok p) ms (ps.map (·.again)) := by
    rw [List.forall₂_map_right_iff]
    have both := (List.forall₂_and_left ps ms).2
      ⟨legible, List.Forall₂.flip (R := flip Address.Mailbox.Spells) spells⟩
    exact List.Forall₂.flip (both.imp fun _ _ h => h.2.parts h.1)
  have again := parse_of_mailboxes filled hms
    ((Address.Listing.defects_mailboxes spells).2 legible) parts
    (List.forall_mem_map.2 fun p hp => Address.hasLineBreak_again (unbroken p hp) (ordinary p hp))
    (List.forall_mem_map.2 fun p hp =>
      have ⟨_, ht⟩ := written p hp
      Address.isEncodable_plain_again ht (encodable p hp))
    (List.forall_mem_map.2 fun p hp =>
      ⟨(ordinary p hp).localPart, (ordinary p hp).domain.ne_nil⟩)
  rwa [List.map_map] at again

/-- If the dots of a local part are in the wrong places, nothing is read. -/
theorem isLegible_of_parse_rendered (ordinary : ∀ p ∈ ps, p.IsOrdinary)
    (e : AddressList.render? (ps.map (·.address)) = .some text) {l : AddressList}
    (parses : AddressList.parse text = .ok l) :
    ∀ p ∈ ps, Address.LocalPart.IsLegible p.localPart := by
  obtain ⟨texts, htexts, rfl⟩ := Option.map_eq_some_iff.1 e
  obtain ⟨ms, hms, spells⟩ := Address.Listing.readEntries_rendered ordinary htexts (Nat.le_refl _)
  obtain ⟨-, listing, -, hlisting, -, -, sound, -⟩ := AddressList.parse_eq_ok_iff.1 parses
  rw [Address.Listing.read, hms] at hlisting
  cases hlisting
  exact (Address.Listing.defects_mailboxes spells).1 sound

/-- **Reading addresses that have been written does not break down**, wherever their dots are. -/
theorem parse_rendered_ne_breakdown (ordinary : ∀ p ∈ ps, p.IsOrdinary)
    (e : AddressList.render? (ps.map (·.address)) = .some text) (cause : Address.Breakdown) :
    AddressList.parse text ≠ .error (.breakdown cause) := by
  obtain ⟨texts, htexts, rfl⟩ := Option.map_eq_some_iff.1 e
  obtain ⟨ms, hms, spells⟩ := Address.Listing.readEntries_rendered ordinary htexts (Nat.le_refl _)
  intro breaks
  rcases parse_eq_breakdown breaks with unread | ⟨listing, hlisting, unparted⟩
  · rw [Address.Listing.read, hms] at unread
    cases unread
  · rw [Address.Listing.read, hms] at hlisting
    cases hlisting
    exact Address.blocks_mailboxes_ne_breakdown _ spells cause unparted

end AddressList

end Mailroom
