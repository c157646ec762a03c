import Mailroom.Proofs.Address.Rendered

/-!
# Lists as they are entered

* `Address.Word.Entered`, `Address.Phrase.Entered`: a word and a name as they are entered, with what
  they stand for;
* `Address.Parts.Entered`: an address by itself, in angle brackets, or after its name;
* `AddressList.Entered`: such addresses with gaps around them and commas between them;
* `AddressList.parse_entered`: each is read as it has been entered;
* `AddressList.Entered.trim`: the gaps at the ends make no difference.
-/

namespace Mailroom

namespace Address

/-! ### Words -/

/-- A word as it is entered, with what it stands for: an atom that does not begin with a blank, or
any text between quotation marks. -/
inductive Word.Entered : Text → Text → Prop where
  | atom {s : Text} (nonempty : s ≠ []) (plain : ∀ c ∈ s, Lexeme.endsAtom c = false)
      (unblank : ∀ c, s.head? = some c → c.isBlank = false) (opens : s.OpensNoWord) : Entered s s
  | quoted {s : Text} (opens : s.OpensNoWord) : Entered s.inQuotes s

theorem Word.begins_of_endsAtom {c : CodePoint} (h : Lexeme.endsAtom c = false)
    (unblank : c.isBlank = false) : Begins c := by
  have dotted : Lexeme.endsDottedAtom c = false := by rw [Lexeme.endsDottedAtom, h, Bool.false_and]
  have dot : c ≠ CodePoint.ofChar '.' := by
    rintro rfl
    exact absurd h (by decide)
  exact ⟨unblank, LocalPart.canStart_of_endsDottedAtom dotted,
    LocalPart.endsPhrase_of_endsDottedAtom dotted, CodePoint.val_beq_eq_false dot,
    LocalPart.val_beq_of_endsDottedAtom dotted (CodePoint.ofChar '<') (by decide)⟩

theorem Word.Entered.begins {t v : Text} (h : Word.Entered t v) :
    ∃ c u, t = c :: u ∧ Word.Begins c := by
  cases h with
  | atom nonempty plain unblank opens =>
    obtain ⟨c, u, rfl⟩ := List.exists_cons_of_ne_nil nonempty
    exact ⟨c, u, rfl, Word.begins_of_endsAtom (plain c List.mem_cons_self) (unblank c rfl)⟩
  | quoted opens => exact ⟨_, _, Text.inQuotes_eq v, by decide⟩

/-- A word is read with the gap behind it, up to what ends both. -/
theorem Word.Entered.read? {t v g rest : Text} (h : Word.Entered t v) (gap : g.IsGap)
    (stops : Filler.Stops rest)
    (ends : ∃ d u, g ++ rest = d :: u ∧ Lexeme.endsAtom d = true) :
    ∃ core : WordCore, Word.read? (t ++ (g ++ rest)) =
        some (⟨none, core, Filler.ofGap g⟩, rest) ∧ core.value = v ∧ core.defects = [] := by
  cases h with
  | atom nonempty plain unblank opens =>
    obtain ⟨d, u, next, ends⟩ := ends
    refine ⟨.atom t, ?_, rfl, rfl⟩
    rw [← Word.closed_gap _ gap stops, next]
    exact Word.read?_atom nonempty plain opens ends u
  | quoted opens =>
    obtain ⟨q, read, content, defects, -⟩ := Word.read?_inQuotes opens (g ++ rest)
    refine ⟨.quoted q, ?_, content, defects⟩
    rw [read, Word.closed_gap _ gap stops]

/-! ### Names -/

/-- A name as it is entered, with what it stands for: words with gaps between them, each of which is
one space. -/
inductive Phrase.Entered : Text → Text → Prop where
  | word {t v g : Text} (word : Word.Entered t v) (gap : g.IsGap) : Entered (t ++ g) v
  | more {t v g u n : Text} (word : Word.Entered t v) (gap : g.IsGap) (apart : g ≠ [])
      (others : Entered u n) : Entered (t ++ (g ++ u)) (v ++ CodePoint.ofChar ' ' :: n)

theorem Phrase.Entered.begins {t n : Text} (h : Phrase.Entered t n) :
    ∃ c u, t = c :: u ∧ Word.Begins c := by
  cases h with
  | word word gap =>
    obtain ⟨c, u, rfl, begins⟩ := word.begins
    exact ⟨c, _, rfl, begins⟩
  | more word gap apart others =>
    obtain ⟨c, u, rfl, begins⟩ := word.begins
    exact ⟨c, _, rfl, begins⟩

/-- The elements of a phrase that stand for a name: words, all without a filler before them. -/
structure Phrase.Holds (items : List PhraseItem) (n : Text) : Prop where
  sound : items.flatMap itemDefects = []
  first : ∃ core after more, items = .word ⟨none, core, after⟩ :: more
  last : ∃ init core after, items = init ++ [.word ⟨none, core, after⟩] ∧
    init.flatMap itemValue ++ core.value = n

namespace Phrase.Holds

variable {items : List PhraseItem} {n : Text} {core : WordCore}

theorem single (sound : core.defects = []) (g : Text) :
    Holds [.word ⟨none, core, Filler.ofGap g⟩] core.value where
  sound := by
    simp only [List.flatMap_cons, List.flatMap_nil, itemDefects, Word.defects, sound,
      fillerDefects_ofGap]
    rfl
  first := ⟨_, _, [], rfl⟩
  last := ⟨[], core, _, rfl, rfl⟩

theorem cons (sound : core.defects = []) {g : Text} (apart : g ≠ []) (h : Holds items n) :
    Holds (.word ⟨none, core, Filler.ofGap g⟩ :: items)
      (core.value ++ CodePoint.ofChar ' ' :: n) where
  sound := by
    rw [List.flatMap_cons, h.sound]
    simp only [itemDefects, Word.defects, sound, fillerDefects_ofGap]
    rfl
  first := ⟨_, _, items, rfl⟩
  last := by
    obtain ⟨init, last, after, rfl, rfl⟩ := h.last
    refine ⟨.word ⟨none, core, Filler.ofGap g⟩ :: init, last, after, rfl, ?_⟩
    rw [List.flatMap_cons, itemValue, Word.value, fillerValue_ofGap apart]
    simp [fillerValue, Text.ofString]

/-- Fillers at the ends of a name are no part of it. -/
theorem exists_attach (h : Holds items n) (g : Text) :
    ∃ p, Mailbox.attachFiller (Filler.ofGap g) ⟨items, false⟩ = .ok p ∧ p.defects = [] ∧
      p.name = .ok n := by
  obtain ⟨core, after, more, first⟩ := h.first
  obtain ⟨init, core', after', last, value⟩ := h.last
  have sound := h.sound
  refine ⟨⟨.word ⟨Filler.ofGap g, core, after⟩ :: more, false⟩, ?_, ?_, ?_⟩
  · rw [first]
    unfold Filler.ofGap
    split <;> rfl
  · rw [first, List.flatMap_cons, List.append_eq_nil_iff] at sound
    rw [Phrase.defects, if_neg (by simp), List.nil_append, List.flatMap_cons, sound.2]
    rw [itemDefects, Word.defects] at sound ⊢
    rw [fillerDefects_ofGap, List.append_nil]
    exact sound.1
  · have trimmed : trimStart (.word ⟨Filler.ofGap g, core, after⟩ :: more) = .ok items := by
      rw [first]
      rfl
    have ends : trimEnd items.reverse = .ok (.word ⟨none, core', none⟩ :: init.reverse) := by
      rw [last, List.reverse_append]
      rfl
    rw [name, if_neg (by simp)]
    simp only [trimmed, ends, bind, Except.bind]
    show Except.ok ((PhraseItem.word ⟨none, core', none⟩ :: init.reverse).reverse.flatMap
      itemValue) = _
    rw [List.reverse_cons, List.reverse_reverse, List.flatMap_append, ← value]
    simp [itemValue, Word.value, fillerValue]

end Phrase.Holds

/-- A gap before a name goes to its first word. -/
theorem Phrase.read_gap {g t after : Text} {w : Word} (gap : g.IsGap) (stops : Filler.Stops t)
    (word : Word.read? t = some (w, after)) : (read (g ++ t)).2 = (read t).2 := by
  unfold read
  rw [Word.read?_gap gap stops, word]
  rfl

theorem Phrase.readItems_of_endsPhrase {c : CodePoint} (h : Lexeme.endsPhrase c = true)
    (rest : Text) (fuel : Nat) : readItems fuel (c :: rest) = ([], c :: rest) := by
  cases fuel with
  | zero => rfl
  | succ fuel =>
    rw [readItems]
    exact if_pos h

/-- A name begins with a word, and its other elements are read up to the bracket behind it. -/
theorem Phrase.Entered.exists_word {t n : Text} (h : Phrase.Entered t n) (rest : Text) :
    ∃ w after items, Word.read? (t ++ CodePoint.ofChar '<' :: rest) = some (w, after) ∧
      after.length < (t ++ CodePoint.ofChar '<' :: rest).length ∧
      (∀ fuel, after.length ≤ fuel →
        readItems fuel after = (items, CodePoint.ofChar '<' :: rest)) ∧
      Holds (.word w :: items) n := by
  induction h with
  | @word t v g word gap =>
    have stops : Filler.Stops (CodePoint.ofChar '<' :: rest) := Filler.stops_cons.2 (by decide)
    have ends : ∃ d u, g ++ CodePoint.ofChar '<' :: rest = d :: u ∧ Lexeme.endsAtom d = true := by
      cases g with
      | nil => exact ⟨_, _, rfl, by decide⟩
      | cons d g => exact ⟨d, _, rfl, by rw [Lexeme.endsAtom, gap.space d rfl, Bool.or_true]⟩
    obtain ⟨core, read, rfl, sound⟩ := word.read? gap stops ends
    obtain ⟨c, u, rfl, -⟩ := word.begins
    refine ⟨_, _, [], by rw [List.append_assoc, read], ?_, fun fuel _ =>
      readItems_of_endsPhrase (by decide) rest fuel, .single sound g⟩
    simp only [List.length_append, List.length_cons]
    omega
  | @more t v g u n word gap apart others ih =>
    obtain ⟨w', after', items', word', shorter, reads, holds⟩ := ih
    obtain ⟨c, u', rfl, begins⟩ := others.begins
    have ends : ∃ d u, g ++ (c :: u' ++ CodePoint.ofChar '<' :: rest) = d :: u ∧
        Lexeme.endsAtom d = true := by
      obtain ⟨d, g, rfl⟩ := List.exists_cons_of_ne_nil apart
      exact ⟨d, _, rfl, by rw [Lexeme.endsAtom, gap.space d rfl, Bool.or_true]⟩
    have stops : Filler.Stops (c :: u' ++ CodePoint.ofChar '<' :: rest) := begins.stops _
    obtain ⟨core, read, rfl, sound⟩ := word.read? gap stops ends
    refine ⟨_, _, .word w' :: items', by rw [List.append_assoc, List.append_assoc, read], ?_,
      fun fuel enough => ?_, .cons sound apart holds⟩
    · obtain ⟨d, v, rfl, -⟩ := word.begins
      simp only [List.length_append, List.length_cons]
      omega
    · -- the next word takes one code point at least, so the rest of the fuel lasts for the others
      obtain ⟨fuel, rfl⟩ : ∃ k, fuel = k + 1 := ⟨fuel - 1, by
        rw [List.cons_append, List.length_cons] at enough
        omega⟩
      rw [List.cons_append] at word' shorter enough ⊢
      rw [readItems, if_neg (by simp [begins.phrase])]
      simp only [begins.dot, Bool.false_eq_true, if_false, word', reads fuel (by omega)]

/-- **A name is read as it has been entered.** -/
theorem Phrase.Entered.read {t n : Text} (h : Phrase.Entered t n) (rest : Text) :
    ∃ items, Phrase.read (t ++ CodePoint.ofChar '<' :: rest) =
        (⟨items, false⟩, CodePoint.ofChar '<' :: rest) ∧ Holds items n ∧
      ∀ g : Text, g.IsGap → (Phrase.read (g ++ (t ++ CodePoint.ofChar '<' :: rest))).2 =
        CodePoint.ofChar '<' :: rest := by
  obtain ⟨w, after, items, word, -, reads, holds⟩ := h.exists_word rest
  have read : Phrase.read (t ++ CodePoint.ofChar '<' :: rest) =
      (⟨.word w :: items, false⟩, CodePoint.ofChar '<' :: rest) := by
    unfold Phrase.read
    rw [word]
    simp only [reads _ (Nat.le_refl _)]
  refine ⟨_, read, holds, fun g gap => ?_⟩
  have stops : Filler.Stops (t ++ CodePoint.ofChar '<' :: rest) := by
    obtain ⟨c, u, rfl, begins⟩ := h.begins
    exact begins.stops _
  rw [Phrase.read_gap gap stops word, read]

/-! ### Addresses without a name -/

/-- Atoms with single dots between them and without blanks, nothing in which looks like an encoded
word. -/
structure IsAtoms (s : Text) : Prop where
  dots : Lexeme.isDotted s = true
  plain : ∀ c ∈ s, Lexeme.endsDottedAtom c = false ∧ c.isBlank = false
  opens : s.OpensNoWord

/-- The elements that dots make of a local part are passed over as those of a phrase. -/
theorem Phrase.readItems_atoms {s : Text} (plain : ∀ c ∈ s, Lexeme.endsDottedAtom c = false)
    (opens : s.OpensNoWord) {fuel : Nat} (enough : s.length ≤ fuel) (rest : Text) :
    (readItems fuel (s ++ CodePoint.ofChar '@' :: rest)).2 = CodePoint.ofChar '@' :: rest := by
  induction fuel generalizing s with
  | zero =>
    rw [List.length_eq_zero_iff.1 (Nat.le_zero.1 enough)]
    rfl
  | succ fuel ih =>
    cases s with
    | nil => rw [List.nil_append, readItems_of_endsPhrase (by decide)]
    | cons c t =>
      rw [List.length_cons] at enough
      have goesOn : ¬ Lexeme.endsPhrase c = true := by
        rw [LocalPart.endsPhrase_of_endsDottedAtom (plain c List.mem_cons_self)]
        exact Bool.false_ne_true
      by_cases hc : c = CodePoint.ofChar '.'
      · rw [List.cons_append, readItems, if_neg goesOn, hc]
        simp only
        rw [if_pos (by decide), ih (fun d hd => plain d (List.mem_cons_of_mem c hd))
          (Text.opensNoWord_cons.1 opens).2 (by omega)]
      · -- a whole run is one word
        obtain ⟨run, t', -, -, -, shorter, ⟨plain', opens'⟩, word⟩ :=
          LocalPart.exists_first_run hc plain opens rest
        have dot : (c.val == 0x2E) = false := CodePoint.val_beq_eq_false hc
        rw [List.cons_append, readItems, if_neg goesOn]
        simp only [dot, Bool.false_eq_true, if_false, word, ih plain' opens' (by omega)]

namespace IsAtoms

variable {s : Text}

theorem exists_cons (h : IsAtoms s) : ∃ c t, s = c :: t ∧ Word.Begins c := by
  cases s with
  | nil => cases h.dots
  | cons c t =>
    obtain ⟨plain, unblank⟩ := h.plain c List.mem_cons_self
    refine ⟨c, t, rfl, Word.begins_of_endsAtom
      (LocalPart.endsAtom_of_endsDottedAtom plain fun dot => ?_) unblank⟩
    have dots := h.dots
    rw [dot, LocalPart.isDotted_dot] at dots
    cases dots

theorem stops (h : IsAtoms s) (t : Text) : Filler.Stops (s ++ t) := by
  obtain ⟨c, u, rfl, begins⟩ := h.exists_cons
  exact begins.stops _

/-- A dotted local part begins with a word, and is passed over as a phrase. -/
theorem read_phrase (h : IsAtoms s) (rest : Text) :
    ∃ core after more items, Word.read? (s ++ CodePoint.ofChar '@' :: rest) =
        some (⟨none, core, after⟩, more) ∧
      Phrase.read (s ++ CodePoint.ofChar '@' :: rest) =
        (⟨.word ⟨none, core, after⟩ :: items, false⟩, CodePoint.ofChar '@' :: rest) := by
  obtain ⟨c, t, rfl, begins⟩ := h.exists_cons
  have first : c ≠ CodePoint.ofChar '.' := by
    rintro rfl
    exact absurd begins.dot (by decide)
  obtain ⟨run, t', -, -, -, -, ⟨plain, opens⟩, word⟩ :=
    LocalPart.exists_first_run first (fun c hc => (h.plain c hc).1) h.opens rest
  let more := t' ++ CodePoint.ofChar '@' :: rest
  have others : (Phrase.readItems more.length more).2 = CodePoint.ofChar '@' :: rest :=
    Phrase.readItems_atoms plain opens (by simp [more]) rest
  refine ⟨.atom run, none, more, (Phrase.readItems more.length more).1, word, ?_⟩
  unfold Phrase.read
  rw [List.cons_append, word]
  exact Prod.ext rfl others

end IsAtoms

/-- An address by itself is read with the filler behind it, up to what ends it. -/
theorem Listing.readAddress_bare {l d g tail rest : Text} {after : Option Filler}
    (localPart : IsAtoms l) (domain : IsAtoms d) (gap : g.IsGap)
    (skips : Filler.skip tail = (after, rest))
    (ends : Lexeme.EndsBefore Lexeme.endsDottedAtom tail) (entry : EndsEntry rest) :
    readAddress (g ++ (l ++ CodePoint.ofChar '@' :: (d ++ tail))) =
      .ok (.mailbox (.plain ⟨.plain ⟨Filler.ofGap g, .atom l, none⟩,
        some ⟨.text d :: Domain.ofFiller after⟩⟩), rest) := by
  have stops := localPart.stops (CodePoint.ofChar '@' :: (d ++ tail))
  obtain ⟨core, after', more, items, word, phrase⟩ :=
    localPart.read_phrase (CodePoint.ofChar '@' :: (d ++ tail)).tail
  have spaced : (Phrase.read (g ++ (l ++ CodePoint.ofChar '@' :: (d ++ tail)))).2 =
      CodePoint.ofChar '@' :: (d ++ tail) := by
    rw [Phrase.read_gap gap stops word]
    exact congrArg Prod.snd phrase
  have group := Group.read_of_phrase spaced (by decide)
  -- no bracket follows what could be a name
  have angle : Mailbox.readAngle (g ++ (l ++ CodePoint.ofChar '@' :: (d ++ tail))) =
      .error .mismatch := by
    obtain ⟨c, t, rfl, begins⟩ := localPart.exists_cons
    have attach : ∃ p, Mailbox.attachFiller (Filler.ofGap g)
        ⟨.word ⟨none, core, after'⟩ :: items, false⟩ = .ok p := by
      unfold Filler.ofGap
      split <;> exact ⟨_, rfl⟩
    obtain ⟨p, attach⟩ := attach
    have unangled : Angle.read (CodePoint.ofChar '@' :: (d ++ tail)) = .error .mismatch := by
      rw [Angle.read, if_neg (by simp), Filler.skip_of_not_canStart (by decide)]
      exact if_pos (by decide)
    unfold Mailbox.readAngle
    rw [if_neg (by simp), Filler.skip_gap gap stops]
    simp only [List.cons_append, List.tail_cons] at phrase ⊢
    simp only [begins.bracket, begins.phrase, phrase, attach, unangled, List.isEmpty_cons,
      Bool.false_eq_true, if_false, bind, Except.bind]
  have spec : AddrSpec.read (g ++ (l ++ CodePoint.ofChar '@' :: (d ++ tail))) =
      .ok (⟨.plain ⟨Filler.ofGap g, .atom l, none⟩, some ⟨.text d :: Domain.ofFiller after⟩⟩,
        rest) := by
    have read := LocalPart.read_gap gap stops (LocalPart.read_dotted
      (fun c hc => (localPart.plain c hc).1) localPart.opens localPart.dots (d ++ tail))
    have read' := Domain.read_dotted domain.dots (fun c hc => (domain.plain c hc).1) domain.opens
      ends skips fun c t e => by
        rw [entry c t e]
        decide
    rw [AddrSpec.read, read]
    simp only [bind, Except.bind, read']
    rfl
  unfold readAddress Mailbox.read
  rw [group, angle]
  simp only [Halt.orElse, bind, Except.bind, spec]
  rfl

/-! ### Addresses -/

/-- The parts of an address can be read where they stand: nothing in the local part looks like an
encoded word, both it and the domain are legible, and all is made of octets, without breaks. -/
structure Parts.IsSound (p : Parts) : Prop where
  localPart : p.localPart ≠ []
  opens : p.localPart.OpensNoWord
  legible : LocalPart.IsLegible p.localPart
  domain : Domain.IsLegible p.domain
  unbroken : p.address.IsUnbroken
  spec : p.spec.IsEncodable
  name : p.name.IsEncodable

/-- An address as it is entered: by itself, in angle brackets, or in angle brackets after its
name. -/
inductive Parts.Entered (p : Parts) : Text → Prop where
  | bare (unnamed : p.name = []) (localPart : IsAtoms p.localPart) (domain : IsAtoms p.domain) :
      Entered p (p.localPart ++ CodePoint.ofChar '@' :: p.domain)
  | bracketed (unnamed : p.name = []) : Entered p p.address.bracketed
  | named {t : Text} (name : Phrase.Entered t p.name) : Entered p (t ++ p.address.bracketed)

variable {p : Parts}

/-- An address is entered without blanks at its ends. -/
theorem Parts.Entered.isTrimmed {t : Text} (h : p.Entered t) : t ≠ [] ∧ t.IsTrimmed := by
  obtain ⟨c, u, d, rfl, first, last⟩ :
      ∃ c u d, t = c :: (u ++ [d]) ∧ c.isBlank = false ∧ d.isBlank = false := by
    cases h with
    | bare unnamed localPart domain =>
      obtain ⟨c, u, first, begins⟩ := localPart.exists_cons
      obtain ⟨_, _, filled, -⟩ := domain.exists_cons
      obtain ⟨v, d, last⟩ := (List.eq_nil_or_concat' p.domain).resolve_left (by simp [filled])
      exact ⟨c, u ++ CodePoint.ofChar '@' :: v, d, by rw [first, last]; simp, begins.unblank,
        (domain.plain d (by simp [last])).2⟩
    | bracketed unnamed => exact ⟨'<', p.spec, '>', rfl, by decide, by decide⟩
    | named name =>
      obtain ⟨c, u, rfl, begins⟩ := name.begins
      refine ⟨c, u ++ CodePoint.ofChar '<' :: p.spec, '>', ?_, begins.unblank, by decide⟩
      rw [List.cons_append, List.append_assoc]
      rfl
  exact ⟨List.cons_ne_nil _ _, Text.isTrimmed_cons_concat first last u⟩

/-- A mailbox without a defect from which some parts are taken. -/
structure Mailbox.Yields (m : Mailbox) (p : Parts) : Prop where
  sound : m.defects = []
  parts : m.parts = .ok p

theorem Mailbox.yields_of_angle {a : Angle} (h : a.Spells { p with name := [] })
    (legible : LocalPart.IsLegible p.localPart) {name : Option Phrase}
    (defects : (name.map Phrase.defects).getD [] = [])
    (same : (match name with | some name => name.name | none => .ok []) = .ok p.name) :
    (Mailbox.angle name a).Yields p where
  sound := by
    rw [Mailbox.defects, defects, List.nil_append]
    exact h.defects.2 legible
  parts := by
    obtain ⟨spec, e, domain, text⟩ := h.spec
    rw [parts_angle e same, text legible, domain]
    rfl

/-- Gaps around an address by itself leave neither a defect nor a trace in its parts. -/
theorem Mailbox.yields_of_bare (unnamed : p.name = []) (domain : IsAtoms p.domain) (g g' : Text) :
    (Mailbox.plain ⟨.plain ⟨Filler.ofGap g, .atom p.localPart, none⟩,
      some ⟨.text p.domain :: Domain.ofFiller (Filler.ofGap g')⟩⟩).Yields p where
  sound := by
    have around : (Domain.ofFiller (Filler.ofGap g')).flatMap Domain.itemDefects = [] := by
      unfold Filler.ofGap
      split <;> rfl
    simp [Mailbox.defects, AddrSpec.defects, LocalPart.defects, LocalPart.isProper, Word.defects,
      WordCore.defects, Domain.defects, Domain.itemDefects, around, fillerDefects_ofGap,
      show fillerDefects none = [] from rfl]
  parts := by
    have text : Domain.text ⟨.text p.domain :: Domain.ofFiller (Filler.ofGap g')⟩ = p.domain := by
      have own : p.domain.filter (fun c => !c.isBlank) = p.domain :=
        List.filter_eq_self.2 fun c hc => by simp [(domain.plain c hc).2]
      have around : ((Domain.ofFiller (Filler.ofGap g')).flatMap Domain.itemValue).filter
          (fun c => !c.isBlank) = [] := by
        unfold Filler.ofGap
        split <;> rfl
      rw [Domain.text, List.flatMap_cons, List.filter_append, around, List.append_nil]
      exact own
    simp only [Mailbox.parts, Mailbox.spec?, Option.bind_some, Option.map_some, text,
      LocalPart.text]
    show Except.ok (⟨[], p.localPart, p.domain⟩ : Parts) = .ok p
    rw [← unnamed]

/-- A gap ends atoms with dots between them, and so does what ends an entry. -/
theorem EndsEntry.endsBefore {g rest : Text} (gap : g.IsGap) (ends : EndsEntry rest) :
    Lexeme.EndsBefore Lexeme.endsDottedAtom (g ++ rest) := by
  intro c u e
  cases g with
  | nil =>
    rw [ends c u e]
    decide
  | cons d g =>
    obtain rfl : d = c := (List.cons.inj e).1
    exact Lexeme.endsDottedAtom_of_isSpace (gap.space d rfl)

/-- **An address is read as it has been entered**, with the gaps around it. -/
theorem Parts.Entered.read {t g g' rest : Text} (h : p.Entered t) (sound : p.IsSound)
    (before : g.IsGap) (after : g'.IsGap) (ends : EndsEntry rest) :
    ∃ m, Listing.readAddress (g ++ (t ++ (g' ++ rest))) = .ok (.mailbox m, rest) ∧
      m.Yields p := by
  have skips := Filler.skip_gap after ends.stops
  have ordinary : Parts.IsOrdinary { p with name := [] } :=
    ⟨sound.localPart, sound.opens, sound.domain, fun _ => rfl⟩
  obtain ⟨a, angle, spells, unspaced⟩ :=
    Angle.read_bracketed ordinary skips (fillerDefects_ofGap g')
  cases h with
  | bare unnamed localPart domain =>
    have read :=
      Listing.readAddress_bare localPart domain before skips (ends.endsBefore after) ends
    rw [List.append_assoc, List.cons_append]
    exact ⟨_, read, Mailbox.yields_of_bare unnamed domain g g'⟩
  | bracketed unnamed =>
    exact ⟨_, Listing.readAddress_bracketed before angle,
      Mailbox.yields_of_angle (spells.attach unspaced) sound.legible rfl (by rw [unnamed])⟩
  | @named t name =>
    obtain ⟨u, head⟩ : ∃ u, p.address.bracketed ++ (g' ++ rest) = CodePoint.ofChar '<' :: u :=
      ⟨_, rfl⟩
    obtain ⟨items, phrase, holds, spaced⟩ := name.read u
    obtain ⟨words, attach, clear, same⟩ := holds.exists_attach g
    rw [← head] at phrase spaced
    have begins : ∃ c v, t ++ (p.address.bracketed ++ (g' ++ rest)) = c :: v ∧
        Word.Begins c := by
      obtain ⟨c, v, rfl, begins⟩ := name.begins
      exact ⟨c, _, rfl, begins⟩
    rw [List.append_assoc]
    exact ⟨_, Listing.readAddress_named before angle begins (spaced g before) phrase attach,
      Mailbox.yields_of_angle spells sound.legible clear same⟩

end Address

/-! ### Lists -/

open Address

/-- Addresses as they are entered, with gaps around them and commas between them. -/
inductive AddressList.Entered : Text → AddressList → Prop where
  | last {p : Parts} {t g g' : Text} (sound : p.IsSound) (entered : p.Entered t)
      (before : g.IsGap) (after : g'.IsGap) : Entered (g ++ (t ++ g')) [p.address]
  | more {p : Parts} {t g g' u : Text} {l : AddressList} (sound : p.IsSound)
      (entered : p.Entered t) (before : g.IsGap) (after : g'.IsGap) (others : Entered u l) :
      Entered (g ++ (t ++ (g' ++ CodePoint.ofChar ',' :: u))) (p.address :: l)

namespace AddressList

variable {v : Text} {l : AddressList}

/-- Addresses are read one by one as they have been entered. -/
theorem Entered.readEntries (h : Entered v l) {fuel : Nat} (enough : v.length ≤ fuel) :
    ∃ ms ps, Listing.readEntries fuel v = .ok ⟨ms.map .mailbox, false⟩ ∧
      l = ps.map (·.address) ∧ List.Forall₂ Mailbox.Yields ms ps ∧ ∀ p ∈ ps, p.IsSound := by
  induction h generalizing fuel with
  | @last p t g g' sound entered before after =>
    obtain ⟨m, read, yields⟩ : ∃ m, Listing.readAddress (g ++ (t ++ (g' ++ []))) =
        .ok (.mailbox m, []) ∧ m.Yields p := entered.read sound before after nofun
    rw [List.append_nil] at read
    have filled : g ++ (t ++ g') ≠ [] := by simp [entered.isTrimmed.1]
    have some := List.length_pos_of_ne_nil filled
    obtain ⟨fuel, rfl⟩ : ∃ k, fuel = k + 1 := ⟨fuel - 1, by omega⟩
    refine ⟨[m], [p], Listing.readEntries_cons filled read nofun ?_, rfl, .cons yields .nil,
      List.forall_mem_singleton.2 sound⟩
    cases fuel <;> rfl
  | @more p t g g' u l sound entered before after others ih =>
    have ends : EndsEntry (CodePoint.ofChar ',' :: u) := fun c t e => (List.cons.inj e).1.symm
    obtain ⟨m, read, yields⟩ := entered.read sound before after ends
    have filled : g ++ (t ++ (g' ++ CodePoint.ofChar ',' :: u)) ≠ [] := by simp
    simp only [List.length_append, List.length_cons] at enough
    obtain ⟨fuel, rfl⟩ : ∃ k, fuel = k + 1 := ⟨fuel - 1, by omega⟩
    have shorter : List.length u ≤ fuel := by omega
    obtain ⟨ms, ps, reads, rfl, all, sounds⟩ := ih shorter
    exact ⟨m :: ms, p :: ps, Listing.readEntries_cons filled read ends reads, rfl,
      .cons yields all, List.forall_mem_cons.2 ⟨sound, sounds⟩⟩

theorem Entered.isBlank (h : Entered v l) : v.isBlank = false := by
  have unblank {p : Parts} {t : Text} (entered : p.Entered t) : t.isBlank = false := by
    obtain ⟨filled, trimmed⟩ := entered.isTrimmed
    obtain ⟨c, u, rfl⟩ := List.exists_cons_of_ne_nil filled
    rw [Text.isBlank, List.all_cons, trimmed.head c rfl, Bool.false_and]
  cases h with
  | last _ entered => simp [Text.isBlank_append, unblank entered]
  | more _ entered => simp [Text.isBlank_append, unblank entered]

/-- **A list is read as it has been entered.** -/
theorem parse_entered (h : Entered v l) : parse v = .ok l := by
  obtain ⟨ms, ps, reads, rfl, yields, sounds⟩ := h.readEntries (Nat.le_refl _)
  refine parse_of_mailboxes h.isBlank reads ?_ (yields.imp fun _ _ y => y.parts)
    (fun p hp => hasLineBreak_eq_false (sounds p hp).unbroken (sounds p hp).domain.ne_nil)
    (fun p hp => isEncodable_plain (sounds p hp).name (sounds p hp).spec)
    fun p hp => ⟨(sounds p hp).localPart, (sounds p hp).domain.ne_nil⟩
  clear reads sounds h
  unfold Listing.defects
  rw [if_neg (by simp), List.nil_append]
  induction yields with
  | nil => rfl
  | cons yields _ ih =>
    rw [List.map_cons, List.flatMap_cons, ih, List.append_nil]
    exact yields.sound

/-! ### The gaps at the ends -/

/-- A gap before a list is one before its first address. -/
theorem Entered.lead {g : Text} (gap : g.IsGap) (h : Entered v l) : Entered (g ++ v) l := by
  cases h with
  | last sound entered before after =>
    rw [← List.append_assoc]
    exact .last sound entered (gap.append before) after
  | more sound entered before after others =>
    rw [← List.append_assoc]
    exact .more sound entered (gap.append before) after others

/-- Between the gaps at its ends, a list is a list of the same addresses. -/
theorem Entered.exists_trimmed (h : Entered v l) :
    ∃ g w g', v = g ++ w ++ g' ∧ g.IsGap ∧ g'.IsGap ∧ Entered w l ∧ w ≠ [] ∧ w.IsTrimmed := by
  induction h with
  | @last p t g g' sound entered before after =>
    obtain ⟨filled, trimmed⟩ := entered.isTrimmed
    refine ⟨g, t, g', (List.append_assoc _ _ _).symm, before, after, ?_, filled, trimmed⟩
    have alone := Entered.last sound entered Text.isGap_nil Text.isGap_nil
    rwa [List.nil_append, List.append_nil] at alone
  | @more p t g g' u l sound entered before after others ih =>
    obtain ⟨g₁, w, g₂, rfl, before', after', entered', filled', trimmed'⟩ := ih
    obtain ⟨filled, trimmed⟩ := entered.isTrimmed
    refine ⟨g, t ++ (g' ++ CodePoint.ofChar ',' :: (g₁ ++ w)), g₂, by simp, before, after',
      .more sound entered Text.isGap_nil after (entered'.lead before'), by simp [filled], ?_, ?_⟩
    · intro c hc
      rw [List.head?_append_of_ne_nil _ filled] at hc
      exact trimmed.head c hc
    · intro c hc
      have whole : t ++ (g' ++ CodePoint.ofChar ',' :: (g₁ ++ w)) =
          t ++ g' ++ CodePoint.ofChar ',' :: g₁ ++ w := by simp
      rw [whole, List.getLast?_append_of_ne_nil _ filled'] at hc
      exact trimmed'.last c hc

/-- **The blanks at its ends make no difference to a list** if they are gaps. -/
theorem Entered.trim (h : Entered v l) : Entered v.trim l := by
  obtain ⟨g, w, g', rfl, before, after, entered, -, trimmed⟩ := h.exists_trimmed
  rwa [Text.trim_append before.blank trimmed after.blank]

end AddressList

end Mailroom
