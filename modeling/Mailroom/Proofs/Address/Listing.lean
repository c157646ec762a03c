import Mailroom.Address.Reader
import Mailroom.Proofs.Address.AddrSpec
import Mailroom.Proofs.Perform
import Mathlib.Data.List.Forall2

/-!
# Reading lists of addresses back

* `Address.Parts.IsOrdinary`: an address that is written without surprises, but for the dots in
  its local part;
* `Address.Mailbox.Spells`: a mailbox that is read as such an address;
* `Address.Mailbox.read_rendered`, `Address.Listing.readEntries_rendered`: when such addresses have
  been written, they are read one by one;
* `Address.Listing.defects_mailboxes`: no defect is found exactly if all dots are in place.
-/

namespace Mailroom

namespace Address

/-- The address is written without surprises, but for the dots in its local part: nothing looks
like an encoded word, and the domain can be read. -/
structure Parts.IsOrdinary (p : Parts) : Prop where
  localPart : p.localPart ≠ []
  opens : p.localPart.OpensNoWord
  domain : Domain.IsLegible p.domain
  name : p.name.isAscii = true → p.name.OpensNoWord

/-- What is left of the parts of an address when they are written and read: each run of blanks in
a name that had to be encoded is one space. -/
def Parts.again (p : Parts) : Parts :=
  { p with name := if p.name.isAscii then p.name else p.name.squeeze }

/-- Nothing is left, or a comma follows. -/
def EndsEntry (rest : Text) : Prop := ∀ c t, rest = c :: t → c = CodePoint.ofChar ','

theorem EndsEntry.stops {rest : Text} (h : EndsEntry rest) : Filler.Stops rest := by
  intro c t e
  rw [h c t e]
  decide

theorem Domain.IsLegible.ne_nil {d : Text} (h : Domain.IsLegible d) : d ≠ [] := by
  cases h with
  | dotted dots => exact fun e => by rw [e] at dots; cases dots
  | literal => exact List.cons_ne_nil _ _

variable {p : Parts}

theorem Parts.spec_of_domain (h : p.domain ≠ []) :
    p.spec = LocalPart.written p.localPart ++ CodePoint.ofChar '@' :: p.domain := by
  unfold Parts.spec
  rw [if_neg (by simpa using h)]
  show LocalPart.written p.localPart ++ [CodePoint.ofChar '@'] ++ p.domain = _
  simp

theorem Parts.IsOrdinary.spec (h : p.IsOrdinary) :
    p.spec = LocalPart.written p.localPart ++ CodePoint.ofChar '@' :: p.domain :=
  spec_of_domain h.domain.ne_nil

/-- A written local part begins with a code point that is no closing bracket. -/
theorem LocalPart.written_head {s : Text} (nonempty : s ≠ []) :
    ∃ c t, written s = c :: t ∧ c ≠ CodePoint.ofChar '>' := by
  unfold written
  split
  · exact ⟨_, _, Text.inQuotes_eq s, by decide⟩
  · next raw =>
    obtain ⟨c, t, rfl⟩ := List.exists_cons_of_ne_nil nonempty
    refine ⟨c, t, rfl, fun e => raw ?_⟩
    rw [e, List.any_cons, show Lexeme.endsDottedAtom (CodePoint.ofChar '>') = true by decide]
    rfl

/-- An address in angle brackets that is read as some parts, apart from a name. -/
structure Angle.Spells (a : Angle) (p : Parts) : Prop where
  defects : a.defects = [] ↔ LocalPart.IsLegible p.localPart
  spec : ∃ spec, a.spec = some spec ∧ spec.domain.map Domain.text = some p.domain ∧
    (LocalPart.IsLegible p.localPart → spec.localPart.text = .ok p.localPart)

/-- An address in angle brackets is read with the filler that follows. -/
theorem Angle.read_bracketed (h : p.IsOrdinary) {tail rest : Text} {after : Option Filler}
    (skips : Filler.skip tail = (after, rest)) (closed : fillerDefects after = []) :
    ∃ a : Angle, Angle.read (p.address.bracketed ++ tail) = .ok (a, rest) ∧ a.Spells p ∧
      a.before = none := by
  obtain ⟨spec, hspec, defects, text, domain⟩ :=
    AddrSpec.read_written h.localPart h.opens h.domain tail
  obtain ⟨c, t, head, bracket⟩ := LocalPart.written_head h.localPart
  have whole : p.address.bracketed ++ tail = CodePoint.ofChar '<' ::
      (LocalPart.written p.localPart ++
        CodePoint.ofChar '@' :: (p.domain ++ CodePoint.ofChar '>' :: tail)) := by
    show Text.ofString "<" ++ p.spec ++ Text.ofString ">" ++ tail = _
    rw [h.spec]
    simp [Text.ofString]
  refine ⟨⟨none, none, some spec, false, after⟩, ?_, ⟨?_, spec, rfl, domain, text⟩, rfl⟩
  · have bracket : (c.val == 0x3E) = false := CodePoint.val_beq_eq_false bracket
    rw [head, List.cons_append] at hspec whole
    rw [whole, Angle.read]
    simp only [Filler.skip_of_not_canStart (c := CodePoint.ofChar '<') (by decide), bracket, hspec]
    rw [if_neg (by simp), if_neg (by decide)]
    show Except.ok (⟨none, none, some spec, false, (Filler.skip tail).1⟩, (Filler.skip tail).2) =
      (Except.ok (⟨none, none, some spec, false, after⟩, rest) : Except Halt (Angle × Text))
    rw [skips]
  · have unspaced : fillerDefects none = [] := rfl
    simpa [Angle.defects, unspaced, closed] using defects

theorem Angle.Spells.attach {a : Angle} (h : a.Spells p) (unspaced : a.before = none) {g : Text} :
    Angle.Spells { a with before := Filler.ofGap g } p where
  defects := by
    rw [← h.defects]
    simp only [Angle.defects, unspaced, fillerDefects_ofGap]
    rfl
  spec := h.spec

/-! ### Mailboxes -/

/-- The text of a local part is there, or a part of it is missing. -/
theorem LocalPart.text_ne_breakdown (l : LocalPart) (cause : Breakdown) :
    l.text ≠ .error (.breakdown cause) := by
  unfold LocalPart.text
  intro e
  split at e
  · split at e
    · cases e
    · split at e <;> cases e
    · split at e <;> cases e
  · cases e

/-- A mailbox that is read as some parts, and without a defect exactly if their local part is
legible; if it is not, reading does not break down. -/
structure Mailbox.Spells (m : Mailbox) (p : Parts) : Prop where
  defects : m.defects = [] ↔ LocalPart.IsLegible p.localPart
  parts : LocalPart.IsLegible p.localPart → m.parts = .ok p.again
  holds : ∀ cause, m.parts ≠ .error (.breakdown cause)

/-- With its name, an address in angle brackets has the parts of the address between them. -/
theorem Mailbox.parts_angle {a : Angle} {spec : AddrSpec} (h : a.spec = some spec)
    {name : Option Phrase} {n : Text}
    (same : (match name with | some name => name.name | none => .ok []) = .ok n) :
    (Mailbox.angle name a).parts =
      spec.localPart.text.map (⟨n, ·, (spec.domain.map Domain.text).getD []⟩) := by
  unfold Mailbox.parts
  simp only [Mailbox.spec?, h, Option.bind_some, bind, Except.bind]
  cases name with
  | none =>
    rw [Except.ok.injEq] at same
    rw [← same]
    cases spec.localPart.text <;> rfl
  | some phrase =>
    simp only at same
    simp only [same]
    cases spec.localPart.text <;> rfl

theorem Mailbox.spells_of_angle {a : Angle} (h : a.Spells p) {name : Option Phrase}
    (defects : (name.map Phrase.defects).getD [] = [])
    (same : (match name with | some name => name.name | none => .ok []) = .ok p.again.name) :
    (Mailbox.angle name a).Spells p where
  defects := by
    rw [Mailbox.defects, defects, List.nil_append]
    exact h.defects
  parts := fun legible => by
    obtain ⟨spec, e, domain, text⟩ := h.spec
    rw [parts_angle e same, text legible, domain]
    rfl
  holds := fun cause e => by
    obtain ⟨spec, hspec, -⟩ := h.spec
    rw [parts_angle hspec same, map_eq_error_iff] at e
    exact spec.localPart.text_ne_breakdown cause e

/-- The display name of an address as it is written. -/
inductive Parts.Names (p : Parts) : Text → Prop where
  | quoted (ascii : p.name.isAscii = true) : Names p p.name.inQuotes
  | encoded {octets : Octets} (other : p.name.isAscii = false)
      (written : Utf8.encodeStrict? p.name = some octets) : Names p (EncodedWord.encode octets)

/-- An address is written with a name before it, or without. -/
theorem Parts.render_cases {text : Text} (e : p.address.render? = some text) :
    (p.name = [] ∧ text = p.address.bracketed) ∨
      ∃ name, p.Names name ∧ text = name ++ CodePoint.ofChar ' ' :: p.address.bracketed := by
  unfold Address.render? at e
  split at e
  · next unnamed =>
    cases e
    exact .inl ⟨List.isEmpty_iff.1 unnamed, rfl⟩
  · split at e
    · next ascii =>
      cases e
      exact .inr ⟨_, .quoted ascii, by simp [Text.ofString, Parts.address]⟩
    · next other =>
      obtain ⟨octets, written, rfl⟩ := Option.map_eq_some_iff.1 e
      exact .inr ⟨_, .encoded (Bool.eq_false_iff.2 other) written, by simp [Text.ofString]⟩

/-- A written name is read as one word. -/
theorem Parts.Names.read {name : Text} (hn : p.Names name) (h : p.IsOrdinary) (rest : Text) :
    (∃ c t, name = c :: t ∧ Word.Begins c) ∧
      ∃ phrase : Phrase,
        Phrase.read (name ++ CodePoint.ofChar ' ' :: (p.address.bracketed ++ rest)) =
          (phrase, p.address.bracketed ++ rest) ∧
        phrase.defects = [] ∧ phrase.name = .ok p.again.name := by
  obtain ⟨t, angled⟩ : ∃ t, p.address.bracketed = CodePoint.ofChar '<' :: t := ⟨_, rfl⟩
  rw [angled, List.cons_append]
  cases hn with
  | quoted ascii =>
    obtain ⟨q, word, content, defects, -⟩ := Word.read?_inQuotes (h.name ascii)
      (CodePoint.ofChar ' ' :: CodePoint.ofChar '<' :: (t ++ rest))
    obtain ⟨phrase, read, none, same, -⟩ := Phrase.read_word word rfl defects
    refine ⟨⟨_, _, Text.inQuotes_eq p.name, by decide⟩, phrase, read, none, ?_⟩
    rw [same, Parts.again, if_pos ascii]
    exact congrArg _ content
  | @encoded octets other written =>
    have word := Word.read?_encode octets (CodePoint.ofChar '<' :: (t ++ rest))
    obtain ⟨phrase, read, none, same, -⟩ := Phrase.read_word word rfl rfl
    obtain ⟨u, head⟩ := EncodedWord.encode_head octets
    refine ⟨⟨_, u, head, by decide⟩, phrase, read, none, ?_⟩
    · rw [same, Parts.again, if_neg (by simp [other]), WordCore.value, EncodedWord.value,
        Utf8.decodeKeeping_of_encodeStrict? written]

/-- What begins with a phrase is no group, unless a colon follows it. -/
theorem Group.read_of_phrase {t rest : Text} {c : CodePoint} (e : (Phrase.read t).2 = c :: rest)
    (colon : c ≠ CodePoint.ofChar ':') : Group.read t = .error .mismatch := by
  have colon : (c.val == 0x3A) = false := CodePoint.val_beq_eq_false colon
  unfold Group.read
  simp only [e, bne, colon]
  rfl

/-- No phrase begins with a bracket. -/
theorem Phrase.read_bracket {g : Text} (gap : g.IsGap) (rest : Text) :
    (Phrase.read (g ++ CodePoint.ofChar '<' :: rest)).2 = CodePoint.ofChar '<' :: rest := by
  have stops : Filler.Stops (CodePoint.ofChar '<' :: rest) := Filler.stops_cons.2 (by decide)
  have none : Word.read? (g ++ CodePoint.ofChar '<' :: rest) = none := by
    rw [Word.read?_gap gap stops, Word.read?_eq_none (by decide) (by decide) (by decide)]
    rfl
  have bracket (fuel : Nat) : readItems (fuel + 1) (CodePoint.ofChar '<' :: rest) =
      ([], CodePoint.ofChar '<' :: rest) := by
    rw [readItems]
    exact if_pos (by decide)
  unfold Phrase.read
  rw [none]
  dsimp only
  by_cases some : g = []
  · rw [some, List.nil_append, List.length_cons, bracket]
  · -- the gap is the one element before the bracket
    have scan := Filler.scan_gap gap some stops
    obtain ⟨c, g, rfl⟩ := List.exists_cons_of_ne_nil some
    have space : Lexeme.endsPhrase c = false ∧ (c.val == 0x2E) = false := by
      rcases Lexeme.eq_of_isSpace (gap.space c rfl) with rfl | rfl <;> decide
    rw [List.cons_append] at none scan ⊢
    rw [List.length_cons, readItems]
    simp only [space, none, scan, Bool.false_eq_true, if_false]
    rw [List.length_append, List.length_cons, ← Nat.add_assoc, bracket]

/-- An address without a name is read up to what ends it. -/
theorem Listing.readAddress_bracketed {a : Angle} {g tail rest : Text} (gap : g.IsGap)
    (e : Angle.read (p.address.bracketed ++ tail) = .ok (a, rest)) :
    readAddress (g ++ (p.address.bracketed ++ tail)) =
      .ok (.mailbox (.angle none { a with before := Filler.ofGap g }), rest) := by
  obtain ⟨t, head⟩ : ∃ t, p.address.bracketed = CodePoint.ofChar '<' :: t := ⟨_, rfl⟩
  rw [head, List.cons_append] at e ⊢
  have group := Group.read_of_phrase (Phrase.read_bracket gap (t ++ tail)) (by decide)
  have angle : Mailbox.read (g ++ CodePoint.ofChar '<' :: (t ++ tail)) =
      .ok (.angle none { a with before := Filler.ofGap g }, rest) := by
    unfold Mailbox.read Mailbox.readAngle
    simp only [Filler.skip_gap gap (Filler.stops_cons.2 (by decide) :
      Filler.Stops (CodePoint.ofChar '<' :: (t ++ tail)))]
    rw [if_neg (by simp), if_pos (by decide), e]
    rfl
  unfold readAddress
  rw [group, angle]
  rfl

/-- An address after a name is read up to what ends it. -/
theorem Listing.readAddress_named {a : Angle} {g t tail rest : Text} {words words' : Phrase}
    (gap : g.IsGap) (e : Angle.read (p.address.bracketed ++ tail) = .ok (a, rest))
    (begins : ∃ c u, t = c :: u ∧ Word.Begins c)
    (spaced : (Phrase.read (g ++ t)).2 = p.address.bracketed ++ tail)
    (read : Phrase.read t = (words, p.address.bracketed ++ tail))
    (attach : Mailbox.attachFiller (Filler.ofGap g) words = .ok words') :
    readAddress (g ++ t) = .ok (.mailbox (.angle (some words') a), rest) := by
  obtain ⟨u, angled⟩ : ∃ u, p.address.bracketed = CodePoint.ofChar '<' :: u := ⟨_, rfl⟩
  rw [angled, List.cons_append] at e read spaced
  have group := Group.read_of_phrase spaced (by decide)
  have angle : Mailbox.read (g ++ t) = .ok (.angle (some words') a, rest) := by
    obtain ⟨c, v, rfl, begins⟩ := begins
    unfold Mailbox.read Mailbox.readAngle
    simp only [Filler.skip_gap gap (begins.stops v), begins.bracket, begins.phrase, read,
      List.isEmpty_cons, Bool.false_eq_true, if_false, attach, bind, Except.bind, e]
    rw [if_neg (by simp)]
    rfl
  unfold readAddress
  rw [group, angle]
  rfl

/-- A written address is read up to what ends it. -/
theorem Mailbox.read_rendered (h : p.IsOrdinary) {text : Text}
    (e : p.address.render? = some text) {rest : Text} (ends : EndsEntry rest) :
    (∃ m : Mailbox, Listing.readAddress (text ++ rest) = .ok (.mailbox m, rest) ∧ m.Spells p) ∧
      ∃ c t, text = c :: t ∧ c.isBlank = false := by
  obtain ⟨a, angle, spells, before⟩ :=
    Angle.read_bracketed h (Filler.skip_of_stops ends.stops) rfl
  rcases Parts.render_cases e with ⟨unnamed, rfl⟩ | ⟨name, names, rfl⟩
  · refine ⟨⟨.angle none { a with before := none },
      Listing.readAddress_bracketed Text.isGap_nil angle,
      Mailbox.spells_of_angle (spells.attach before (g := [])) rfl ?_⟩, _, _, rfl, by decide⟩
    rw [Parts.again, unnamed]
    rfl
  · obtain ⟨begins, words, read, defects, same⟩ := names.read h rest
    have whole : name ++ CodePoint.ofChar ' ' :: p.address.bracketed ++ rest =
        name ++ CodePoint.ofChar ' ' :: (p.address.bracketed ++ rest) := by
      simp
    obtain ⟨c, u, rfl, begins⟩ := begins
    rw [whole]
    refine ⟨⟨.angle (some words) a, ?_, Mailbox.spells_of_angle spells defects same⟩, c, _, rfl,
      begins.unblank⟩
    exact Listing.readAddress_named (g := []) Text.isGap_nil angle ⟨c, _, rfl, begins⟩
      (congrArg Prod.snd read) read rfl

/-! ### Lists -/

/-- After the first of some joined texts, nothing is left or a comma and the others follow. -/
theorem join_cons (t : Text) (ts : List Text) :
    ∃ rest, Text.join "," (t :: ts) = t ++ rest ∧ EndsEntry rest ∧
      rest.drop 1 = Text.join "," ts := by
  cases ts with
  | nil => exact ⟨[], (List.append_nil t).symm, fun _ _ e => (by cases e), rfl⟩
  | cons u ts =>
    refine ⟨CodePoint.ofChar ',' :: Text.join "," (u :: ts), ?_, fun c t e => ?_, rfl⟩
    · simp [Text.join, Text.ofString]
    · exact (List.cons.inj e).1.symm

theorem EndsEntry.headIs {rest : Text} (h : EndsEntry rest) :
    Lexeme.headIs (·.val != 0x2C) rest = false := by
  cases rest with
  | nil => rfl
  | cons c t => rw [h c t rfl]; rfl

/-- A mailbox that is read up to the end or a comma stands before what is read of the others. -/
theorem Listing.readEntries_cons {t rest : Text} {m : Mailbox} {ms : List Mailbox} {fuel : Nat}
    (filled : t ≠ []) (e : readAddress t = .ok (.mailbox m, rest)) (ends : EndsEntry rest)
    (others : readEntries fuel (rest.drop 1) = .ok ⟨ms.map .mailbox, false⟩) :
    readEntries (fuel + 1) t = .ok ⟨(m :: ms).map .mailbox, false⟩ := by
  have one : readOne t = .ok (([.mailbox m], false), rest) := by
    rw [readOne, e]
  have goesOn : t.isEmpty = false := by simpa using filled
  rw [readEntries, goesOn, one]
  simp only [bind, Except.bind, ends.headIs, Bool.false_eq_true, if_false, others]
  rfl

/-- Written addresses are read one by one. -/
theorem Listing.readEntries_rendered {ps : List Parts} (h : ∀ p ∈ ps, p.IsOrdinary)
    {texts : List Text} (e : AddressList.renderEach? (ps.map Parts.address) = some texts)
    {fuel : Nat} (enough : (Text.join "," texts).length ≤ fuel) :
    ∃ ms : List Mailbox, readEntries fuel (Text.join "," texts) = .ok ⟨ms.map .mailbox, false⟩ ∧
      List.Forall₂ Mailbox.Spells ms ps := by
  induction ps generalizing texts fuel with
  | nil =>
    cases e
    exact ⟨[], by cases fuel <;> rfl, .nil⟩
  | cons p ps ih =>
    rw [List.forall_mem_cons] at h
    obtain ⟨t, ts, ht, hts, rfl⟩ := AddressList.renderEach?_cons_eq_some_iff.1 e
    obtain ⟨rest, joined, ends, dropped⟩ := join_cons t ts
    obtain ⟨⟨m, hm, spells⟩, c, u, head, -⟩ := Mailbox.read_rendered h.1 ht ends
    -- an address takes one code point at least, so the rest of the fuel lasts for the others
    rw [joined, List.length_append, head, List.length_cons] at enough
    obtain ⟨fuel, rfl⟩ : ∃ n, fuel = n + 1 := ⟨fuel - 1, by omega⟩
    have shorter : (Text.join "," ts).length ≤ fuel := by
      rw [← dropped, List.length_drop]
      omega
    obtain ⟨ms, hms, all⟩ := ih h.2 hts shorter
    refine ⟨m :: ms, ?_, .cons spells all⟩
    rw [joined]
    exact readEntries_cons (by rw [head]; exact List.cons_ne_nil _ _) hm ends (by rw [dropped, hms])

/-- No defect is found in written addresses exactly if all their local parts are legible. -/
theorem Listing.defects_mailboxes {ms : List Mailbox} {ps : List Parts}
    (h : List.Forall₂ Mailbox.Spells ms ps) :
    (Listing.mk (ms.map .mailbox) false).defects = [] ↔
      ∀ p ∈ ps, LocalPart.IsLegible p.localPart := by
  unfold Listing.defects
  rw [if_neg (by simp), List.nil_append]
  induction h with
  | nil => simp
  | @cons m p ms ps spells _ ih =>
    rw [List.map_cons, List.flatMap_cons, List.append_eq_nil_iff, ih, List.forall_mem_cons]
    exact and_congr_left' spells.defects

end Address

end Mailroom
