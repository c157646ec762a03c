import Mailroom.Proofs.Address.Rendered

/-!
# Addresses on one line

Comments, quotations and encoded words can hold breaks and letters of any script. Of the breaks
none gets into an address that is read, and of the letters none into the name that is written
before it.

* `Address.partsIn`: the parts of every mailbox in a text, as they are after decoding;
* `Text.IsAsciiOutside`: a text is ASCII but for some pieces of it;
* `AddressList.isAsciiOutside_render?`: addresses as they are written are ASCII but for the
  addresses themselves;
* `AddressList.oneLine_of_parse`: what is read of a text has both parts and no break, and neither
  has what is written of it.
-/

namespace Mailroom

/-! ### Parts -/

namespace Address

/-- The parts of every mailbox in a text, those in groups included. -/
def partsIn (value : Text) : Except Failure (List Parts) := do
  let listing ← (Listing.read value).mapError (failureOf value)
  let blocks ← blocks value listing.entries
  return blocks.flatMap (·.members)

end Address

/-- What is read of a text are the addresses of its mailboxes, and all of these have both parts. -/
theorem AddressList.partsIn_of_parse {value : Text} {l : AddressList}
    (e : AddressList.parse value = .ok l) :
    ∃ ps, Address.partsIn value = .ok ps ∧ l = ps.map (·.address) ∧
      ∀ p ∈ ps, p.localPart ≠ [] ∧ p.domain ≠ [] := by
  obtain ⟨-, listing, bs, hlisting, hbs, -, -, both, rfl⟩ := AddressList.parse_eq_ok_iff.1 e
  have taken : Address.partsIn value = .ok (bs.flatMap (·.members)) :=
    bind_eq_ok_iff.2 ⟨listing, mapError_eq_ok_iff.2 hlisting, bind_eq_ok_iff.2 ⟨bs, hbs, rfl⟩⟩
  exact ⟨_, taken, rfl, both⟩

/-! ### ASCII around pieces -/

/-- Some pieces stand in a text one after another, and what stands before, between and after them
is ASCII. -/
inductive Text.IsAsciiOutside : List Text → Text → Prop
  | plain {t : Text} (ascii : t.isAscii = true) : IsAsciiOutside [] t
  | piece {lead rest piece : Text} {pieces : List Text} (ascii : lead.isAscii = true)
      (others : IsAsciiOutside pieces rest) :
      IsAsciiOutside (piece :: pieces) (lead ++ (piece ++ rest))

namespace Text

theorem IsAsciiOutside.append_left {s t : Text} {pieces : List Text} (ascii : s.isAscii = true)
    (h : IsAsciiOutside pieces t) : IsAsciiOutside pieces (s ++ t) := by
  cases h with
  | plain plain => exact .plain (isAscii_append.2 ⟨ascii, plain⟩)
  | piece lead others =>
    rw [← List.append_assoc]
    exact .piece (isAscii_append.2 ⟨ascii, lead⟩) others

/-- What holds of two texts holds of both together. -/
theorem IsAsciiOutside.append {s t : Text} {pieces more : List Text}
    (hs : IsAsciiOutside pieces s) (ht : IsAsciiOutside more t) :
    IsAsciiOutside (pieces ++ more) (s ++ t) := by
  induction hs with
  | plain ascii => exact ht.append_left ascii
  | piece ascii _ ih =>
    rw [List.append_assoc, List.append_assoc]
    exact .piece ascii ih

end Text

/-! ### Writing -/

/-- Before an address in angle brackets there is at most a name, and that is ASCII as it is
written. -/
theorem Address.isAsciiOutside_render? {a : Address} {text : Text} (e : a.render? = some text) :
    text.IsAsciiOutside [a.address] := by
  have bracketed : a.bracketed.IsAsciiOutside [a.address] := by
    rw [Address.bracketed, List.append_assoc]
    exact .piece (by decide) (.plain (by decide))
  have space : (Text.ofString " ").isAscii = true := by decide
  unfold render? at e
  split at e
  · cases e
    exact bracketed
  · split at e
    · next ascii =>
      cases e
      refine bracketed.append_left (Text.isAscii_append.2 ⟨?_, space⟩)
      refine List.all_eq_true.2 fun c hc => ?_
      rcases Text.mem_inQuotes hc with hc | rfl | rfl
      · exact List.all_eq_true.1 ascii c hc
      · decide
      · decide
    · obtain ⟨octets, -, rfl⟩ := Option.map_eq_some_iff.1 e
      refine bracketed.append_left (Text.isAscii_append.2 ⟨?_, space⟩)
      exact List.all_eq_true.2 fun c hc => (EncodedWord.mem_encode hc).1

/-- **Addresses as they are written are ASCII**, but for the addresses themselves. -/
theorem AddressList.isAsciiOutside_render? {l : AddressList} {text : Text}
    (e : AddressList.render? l = some text) : text.IsAsciiOutside l.addresses := by
  obtain ⟨texts, htexts, rfl⟩ := Option.map_eq_some_iff.1 e
  clear e
  induction l generalizing texts with
  | nil =>
    cases htexts
    exact .plain rfl
  | cons a l ih =>
    obtain ⟨first, rest, hfirst, hrest, rfl⟩ := AddressList.renderEach?_cons_eq_some_iff.1 htexts
    have others := ih rest hrest
    have own := Address.isAsciiOutside_render? hfirst
    cases rest with
    | nil =>
      -- the only address is written without a comma
      have whole := own.append others
      rwa [Text.join, List.append_nil] at whole
    | cons second rest =>
      rw [Text.join, List.append_assoc]
      exact own.append (others.append_left (by decide))

/-- **Addresses that are read fit on one line.** They are the addresses of the mailboxes of the
text, each of which has a local part and a domain; no address and no name has a break in it. They
can be written exactly if no name has a surrogate, and then without breaks, and with nothing but
ASCII outside of the addresses. -/
theorem AddressList.oneLine_of_parse {value : Text} {l : AddressList}
    (e : AddressList.parse value = .ok l) :
    (∃ ps, Address.partsIn value = .ok ps ∧ l = ps.map (·.address) ∧
      ∀ p ∈ ps, p.localPart ≠ [] ∧ p.domain ≠ [] ∧
        p.spec = Address.LocalPart.written p.localPart ++ CodePoint.ofChar '@' :: p.domain) ∧
    (∀ a ∈ l, a.address.IsUnbroken ∧ a.name.IsUnbroken) ∧
    ((∃ text, AddressList.render? l = some text) ↔
      ∀ a ∈ l, a.name.any CodePoint.isSurrogate = false) ∧
    ∀ text, AddressList.render? l = some text →
      text.IsUnbroken ∧ text.IsAsciiOutside l.addresses := by
  have unbroken := AddressList.isUnbroken_of_parse e
  obtain ⟨ps, hps, hl, both⟩ := AddressList.partsIn_of_parse e
  refine ⟨⟨ps, hps, hl, fun p hp => ?_⟩, unbroken, AddressList.exists_render?_iff,
    fun text rendered => ?_⟩
  · exact ⟨(both p hp).1, (both p hp).2, Address.Parts.spec_of_domain (both p hp).2⟩
  · exact ⟨AddressList.isUnbroken_render? unbroken rendered,
      AddressList.isAsciiOutside_render? rendered⟩

/-- Encoded words in a name, a local part and a domain, one of them with a line feed, a comment with
a forged line, and a quotation in a group: what is read and written is one line. -/
theorem AddressList.forged_oneLine :
    let value : Text := "=?utf-8?q?Jos=C3=A9?= <=?utf-8?q?=C3=A9?= @=?utf-8?q?b=C3=BC=0Acher?= > " ++
      "(a\r\nEvil: yes), team: \"A \\\" B\" <\"x y\"@b.c>;"
    let l : AddressList := [⟨"é@bücher", "José"⟩, ⟨"\"x y\"@b.c", "A \" B"⟩]
    AddressList.parse value = .ok l ∧ (∀ a ∈ l, a.address.IsUnbroken ∧ a.name.IsUnbroken) ∧
      ∃ text, AddressList.render? l = some text ∧ text.IsUnbroken ∧
        text.IsAsciiOutside ["é@bücher", "\"x y\"@b.c"] := by
  intro value l
  have parses : AddressList.parse value = .ok l := by decide +kernel
  obtain ⟨-, unbroken, writes, written⟩ := AddressList.oneLine_of_parse parses
  obtain ⟨text, rendered⟩ := writes.2 (by decide)
  exact ⟨parses, unbroken, text, rendered, written text rendered⟩

end Mailroom
