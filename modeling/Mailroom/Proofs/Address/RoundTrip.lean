import Mailroom.Proofs.Address.Rendered
import Mailroom.Proofs.Text.Split

/-!
# What is written is read

* `Text.IsDotAtom`: atoms with single dots between them, which `Text.isDotAtom_iff` decides;
* `Text.opensNoWord_iff`, `Text.squeeze_eq_self`: what a name needs to be read as it was;
* `Address.IsPlain`: an address of dot-atoms, with a name of printable ASCII or with one of other
  letters and single spaces;
* `AddressList.parse_render?`: a list of such addresses is written in ASCII and read as it was.
-/

namespace Mailroom

namespace Text

/-! ### Dot-atoms -/

/-- A letter, a digit or a mark of an atom. -/
def isAtomChar (c : CodePoint) : Bool :=
  c.isAsciiLetter || c.isAsciiDigit ||
    (ofString "!#$%&'*+-/=?^_\x60\x7b|\x7d~").contains c

/-- Atoms with single dots between them. -/
inductive IsDotAtom : Text → Prop where
  | atom {run : Text} (nonempty : run ≠ []) (chars : ∀ c ∈ run, isAtomChar c = true) :
      IsDotAtom run
  | dot {run rest : Text} (nonempty : run ≠ []) (chars : ∀ c ∈ run, isAtomChar c = true)
      (more : IsDotAtom rest) : IsDotAtom (run ++ CodePoint.ofChar '.' :: rest)

theorem isAscii_of_isAtomChar {c : CodePoint} (h : isAtomChar c = true) : c.isAscii = true := by
  have marks : ∀ m ∈ ofString "!#$%&'*+-/=?^_\x60\x7b|\x7d~", m.isAscii = true := by decide
  simp only [isAtomChar, Bool.or_eq_true, List.contains_iff_mem] at h
  rcases h with alphanumeric | mark
  · exact CodePoint.isAscii_of_letter_or_digit alphanumeric
  · exact marks c mark

/-- No letter, digit or mark of an atom ends one. -/
theorem endsAtom_of_isAtomChar {c : CodePoint} (h : isAtomChar c = true) :
    Lexeme.endsAtom c = false ∧ c.isBlank = false := by
  have all : ∀ c : CodePoint, c.isAscii = true →
      isAtomChar c = true → Lexeme.endsAtom c = false ∧ c.isBlank = false := by
    decide +kernel
  exact all c (isAscii_of_isAtomChar h) h

namespace IsDotAtom

variable {t : Text}

theorem isRun {run : Text} (nonempty : run ≠ []) (chars : ∀ c ∈ run, isAtomChar c = true) :
    Address.LocalPart.IsRun run := by
  refine ⟨nonempty, fun c hc dot => ?_⟩
  have := (endsAtom_of_isAtomChar (chars c hc)).1
  rw [dot] at this
  exact absurd this (by decide)

theorem isDotted (h : IsDotAtom t) : Lexeme.isDotted t = true := by
  induction h with
  | atom nonempty chars => exact Address.LocalPart.isDotted_run (isRun nonempty chars)
  | dot nonempty chars _ ih =>
    rw [Address.LocalPart.isDotted_run_append (isRun nonempty chars)]
    exact ih

theorem ne_nil (h : IsDotAtom t) : t ≠ [] := by
  intro empty
  have := h.isDotted
  rw [empty] at this
  cases this

/-- Nothing in a dot-atom is a mark of the grammar. -/
theorem chars (h : IsDotAtom t) :
    ∀ c ∈ t, c.isAscii = true ∧ Lexeme.endsDottedAtom c = false ∧ c.isBlank = false := by
  have plain {run : Text} (chars : ∀ c ∈ run, isAtomChar c = true) : ∀ c ∈ run,
      c.isAscii = true ∧ Lexeme.endsDottedAtom c = false ∧ c.isBlank = false := by
    intro c hc
    obtain ⟨ends, unblank⟩ := endsAtom_of_isAtomChar (chars c hc)
    exact ⟨isAscii_of_isAtomChar (chars c hc), by simp [Lexeme.endsDottedAtom, ends], unblank⟩
  induction h with
  | atom nonempty chars => exact plain chars
  | dot nonempty chars _ ih =>
    refine List.forall_mem_append.2 ⟨plain chars, List.forall_mem_cons.2 ⟨by decide, ih⟩⟩

theorem of_join {pieces : List Text} (some : pieces ≠ [])
    (runs : ∀ run ∈ pieces, run ≠ [] ∧ ∀ c ∈ run, isAtomChar c = true) :
    IsDotAtom (join [CodePoint.ofChar '.'] pieces) := by
  induction pieces with
  | nil => exact absurd rfl some
  | cons run pieces ih =>
    rw [List.forall_mem_cons] at runs
    cases pieces with
    | nil => exact .atom runs.1.1 runs.1.2
    | cons next pieces =>
      rw [join, List.append_assoc]
      exact .dot runs.1.1 runs.1.2 (ih (List.cons_ne_nil next pieces) runs.2)

end IsDotAtom

/-- The pieces between the dots are atoms. -/
theorem isDotAtom_iff {t : Text} :
    IsDotAtom t ↔ ∀ run ∈ splitOn '.' t, run ≠ [] ∧ ∀ c ∈ run, isAtomChar c = true := by
  constructor
  · intro h
    induction h with
    | atom nonempty chars =>
      rw [splitOn_of_not_mem fun dot => (IsDotAtom.isRun nonempty chars).2 _ dot rfl]
      exact List.forall_mem_singleton.2 ⟨nonempty, chars⟩
    | dot nonempty chars _ ih =>
      rw [splitOn_append fun dot => (IsDotAtom.isRun nonempty chars).2 _ dot rfl]
      exact List.forall_mem_cons.2 ⟨⟨nonempty, chars⟩, ih⟩
  · intro h
    rw [← join_splitOn '.' t]
    exact .of_join (splitOn_ne_nil _ _) h

instance (t : Text) : Decidable t.IsDotAtom := decidable_of_iff _ isDotAtom_iff.symm

/-! ### Names -/

/-- Nothing looks like the beginning of an encoded word exactly if its two signs do not occur one
after the other. -/
theorem opensNoWord_iff {t : Text} : t.OpensNoWord ↔ ¬ ofString "=?" <:+: t := by
  induction t with
  | nil => exact ⟨fun _ => by decide, fun _ => rfl⟩
  | cons c t ih =>
    rw [opensNoWord_cons, ih, List.infix_cons_iff, not_or]
    refine and_congr_left fun _ => not_congr ?_
    show _ ↔ [CodePoint.ofChar '=', CodePoint.ofChar '?'] <+: c :: t
    rw [List.cons_prefix_cons, eq_comm]
    cases t <;> simp [List.cons_prefix_cons, eq_comm]

theorem squeezeAfter_eq_self {t : Text} {before : Bool}
    (spaces : ∀ c ∈ t, c.isBlank = true → c = CodePoint.ofChar ' ')
    (single : ¬ ofString "  " <:+: t)
    (first : before = true → t.head? ≠ some (CodePoint.ofChar ' ')) :
    squeezeAfter before t = t := by
  induction t generalizing before with
  | nil => rfl
  | cons c t ih =>
    rw [List.forall_mem_cons] at spaces
    rw [List.infix_cons_iff, not_or] at single
    rw [squeezeAfter]
    by_cases space : c = CodePoint.ofChar ' '
    · -- a space comes after something else, and something else comes after it
      have here : before = false := by
        by_contra h
        exact first (by simpa using h) (by rw [space]; rfl)
      have next : t.head? ≠ some (CodePoint.ofChar ' ') := by
        intro h
        obtain ⟨d, t', rfl⟩ := List.exists_cons_of_ne_nil (l := t) (by rintro rfl; cases h)
        obtain rfl : d = CodePoint.ofChar ' ' := by simpa using h
        exact single.1 ⟨t', by rw [space]; rfl⟩
      rw [here, if_neg (by simp), if_pos (by rw [space]; decide),
        ih spaces.2 single.2 fun _ => next, space]
    · have unblank : c.isBlank = false := by
        by_contra h
        exact space (spaces.1 (by simpa using h))
      have unspaced : ¬ Lexeme.isSpace c = true := by
        intro h
        rw [Lexeme.isBlank_of_isSpace h] at unblank
        cases unblank
      rw [if_neg (by simp [unblank]), if_neg unspaced,
        ih spaces.2 single.2 fun h => (by cases h)]

/-- A text stays as it is if its only blanks are spaces that stand alone. -/
theorem squeeze_eq_self {t : Text}
    (spaces : ∀ c ∈ t, c.isBlank = true → c = CodePoint.ofChar ' ')
    (single : ¬ ofString "  " <:+: t) : t.squeeze = t :=
  squeezeAfter_eq_self spaces single fun h => (by cases h)

end Text

namespace Address

/-- A display name of printable ASCII in which nothing looks like an encoded word, or one that has
other letters, no half of a surrogate pair, and no blanks but single spaces. -/
inductive IsPlainName (name : Text) : Prop where
  | ascii (printable : ∀ c ∈ name, c.within 0x20 0x7E = true)
      (opens : ¬ Text.ofString "=?" <:+: name)
  | other (other : name.isAscii = false) (valid : ∀ c ∈ name, c.isSurrogate = false)
      (spaces : ∀ c ∈ name, c.isBlank = true → c = CodePoint.ofChar ' ')
      (single : ¬ Text.ofString "  " <:+: name)

/-- An address of two dot-atoms, in neither of which anything looks like an encoded word, with a
plain display name or with none. -/
structure IsPlain (a : Address) : Prop where
  address : ∃ localPart domain : Text, a.address = localPart ++ CodePoint.ofChar '@' :: domain ∧
    (localPart.IsDotAtom ∧ ¬ Text.ofString "=?" <:+: localPart) ∧
    (domain.IsDotAtom ∧ ¬ Text.ofString "=?" <:+: domain)
  name : IsPlainName a.name

theorem IsPlainName.isUnbroken {name : Text} (h : IsPlainName name) : name.IsUnbroken := by
  intro c hc isBreak
  cases h with
  | ascii printable =>
    have := printable c hc
    simp only [CodePoint.within, Bool.and_eq_true, decide_eq_true_eq] at this
    unfold CodePoint.IsBreak at isBreak
    omega
  | other _ _ spaces =>
    rw [spaces c hc (CodePoint.isBlank_of_isBreak isBreak)] at isBreak
    exact absurd isBreak (by decide)

theorem IsPlainName.isSurrogate {name : Text} (h : IsPlainName name) :
    name.any CodePoint.isSurrogate = false := by
  refine List.any_eq_false.2 fun c hc => ?_
  cases h with
  | ascii printable =>
    have := printable c hc
    simp only [CodePoint.within, CodePoint.isSurrogate, Bool.and_eq_true, decide_eq_true_eq] at *
    omega
  | other _ valid => simp [valid c hc]

/-- A plain name is read as it was. -/
theorem IsPlainName.again {p : Parts} (h : IsPlainName p.name) : p.again = p := by
  unfold Parts.again
  cases ascii : p.name.isAscii with
  | true => rfl
  | false =>
    cases h with
    | ascii printable =>
      have all : p.name.isAscii = true := List.all_eq_true.2 fun c hc => by
        have := printable c hc
        simp only [CodePoint.within, Bool.and_eq_true, decide_eq_true_eq] at this
        exact decide_eq_true (by omega)
      rw [all] at ascii
      cases ascii
    | other _ _ spaces single =>
      simp only [Bool.false_eq_true, if_false, Text.squeeze_eq_self spaces single]

theorem IsPlainName.opens {name : Text} (h : IsPlainName name) (ascii : name.isAscii = true) :
    name.OpensNoWord := by
  cases h with
  | ascii _ opens => exact Text.opensNoWord_iff.2 opens
  | other other =>
    rw [ascii] at other
    cases other

/-- Parts that make no trouble when they are written and read again. -/
structure Parts.IsPlain (p : Parts) : Prop where
  ordinary : p.IsOrdinary
  legible : LocalPart.IsLegible p.localPart
  ascii : p.spec.isAscii = true
  unbroken : p.address.IsUnbroken
  again : p.again = p

/-- A plain address has plain parts. -/
theorem IsPlain.exists_parts {a : Address} (h : a.IsPlain) :
    ∃ p : Parts, p.address = a ∧ p.IsPlain := by
  obtain ⟨⟨localPart, domain, address, ⟨dotted, opens⟩, dotted', opens'⟩, name⟩ := h
  have unquoted : localPart.any Lexeme.endsDottedAtom = false :=
    List.any_eq_false.2 fun c hc => by simp [(dotted.chars c hc).2.1]
  have written : LocalPart.written localPart = localPart := if_neg (by simp [unquoted])
  let p : Parts := ⟨a.name, localPart, domain⟩
  have spec : p.spec = a.address := by
    rw [Parts.spec_of_domain dotted'.ne_nil, written, address]
  have whole : p.address = a := by rw [Parts.address, spec]
  have chars : ∀ c ∈ a.address, c.isAscii = true ∧ c.isBlank = false := by
    rw [address]
    exact List.forall_mem_append.2 ⟨fun c hc => ⟨(dotted.chars c hc).1, (dotted.chars c hc).2.2⟩,
      List.forall_mem_cons.2 ⟨by decide, fun c hc =>
        ⟨(dotted'.chars c hc).1, (dotted'.chars c hc).2.2⟩⟩⟩
  refine ⟨p, whole, ⟨dotted.ne_nil, Text.opensNoWord_iff.2 opens, ?_, name.opens⟩,
    .inr dotted.isDotted, ?_, ?_, name.again⟩
  · exact .dotted dotted'.isDotted (fun c hc => (dotted'.chars c hc).2)
      (Text.opensNoWord_iff.2 opens')
  · rw [spec]
    exact List.all_eq_true.2 fun c hc => (chars c hc).1
  · rw [whole]
    refine ⟨fun c hc isBreak => ?_, name.isUnbroken⟩
    have unblank := (chars c hc).2
    rw [CodePoint.isBlank_of_isBreak isBreak] at unblank
    cases unblank

end Address

namespace AddressList

theorem exists_parts {l : AddressList} (plain : ∀ a ∈ l, a.IsPlain) :
    ∃ ps : List Address.Parts, ps.map (·.address) = l ∧ ∀ p ∈ ps, p.IsPlain := by
  induction l with
  | nil => exact ⟨[], rfl, fun p hp => (by cases hp)⟩
  | cons a l ih =>
    rw [List.forall_mem_cons] at plain
    obtain ⟨p, rfl, hp⟩ := plain.1.exists_parts
    obtain ⟨ps, rfl, hps⟩ := ih plain.2
    exact ⟨p :: ps, rfl, List.forall_mem_cons.2 ⟨hp, hps⟩⟩

/-- **What is written is read.** Addresses of dot-atoms, with display names of printable ASCII or of
any letters with single spaces between them, are written in ASCII and read as they were, in the same
order. -/
theorem parse_render? {l : AddressList} (nonempty : l ≠ []) (plain : ∀ a ∈ l, a.IsPlain) :
    ∃ text, render? l = some text ∧ text.isAscii = true ∧ parse text = .ok l := by
  obtain ⟨text, written⟩ := exists_render?_iff.2 fun a ha => (plain a ha).name.isSurrogate
  obtain ⟨ps, rfl, parts⟩ := exists_parts plain
  have ascii : ∀ a ∈ ps.map (·.address), a.address.isAscii = true := by
    intro a ha
    obtain ⟨p, hp, rfl⟩ := List.mem_map.1 ha
    exact (parts p hp).ascii
  have encodable : ∀ p ∈ ps, p.spec.IsEncodable := fun p hp =>
    Address.isEncodable_of_isAscii (parts p hp).ascii
  have same : ps.map (·.again.address) = ps.map (·.address) :=
    List.map_congr_left fun p hp => by rw [(parts p hp).again]
  refine ⟨text, written, isAscii_render? ascii written, ?_⟩
  rw [← same]
  exact parse_rendered (fun none => nonempty (by rw [none]; rfl))
    (fun p hp => (parts p hp).ordinary) (fun p hp => (parts p hp).legible)
    (fun p hp => (parts p hp).unbroken) encodable written

/-- Addresses without a name, with one between quotation marks, and with two that are encoded: in
letters of the quoted form, of which the first is escaped, and in base64. -/
def introduced : AddressList :=
  [⟨"ann.o'hara@example.org", []⟩, ⟨"b+tag@x.y", " Bob \"B\", \\ <b@x.y>: "⟩,
    ⟨"c@d", "é is here"⟩, ⟨"e@f.g", "ééé"⟩]

theorem introduced_parse_render? :
    introduced ≠ [] ∧ (∀ a ∈ introduced, a.IsPlain) ∧
      ∃ text, render? introduced = some text ∧ text.isAscii = true ∧
        parse text = .ok introduced := by
  have some : introduced ≠ [] := by decide
  have plain : ∀ a ∈ introduced, a.IsPlain := by
    simp only [introduced, List.forall_mem_cons]
    refine ⟨⟨⟨"ann.o'hara", "example.org", by decide +kernel⟩, .ascii ?_ ?_⟩,
      ⟨⟨"b+tag", "x.y", by decide +kernel⟩, .ascii ?_ ?_⟩,
      ⟨⟨"c", "d", by decide +kernel⟩, .other ?_ ?_ ?_ ?_⟩,
      ⟨⟨"e", "f.g", by decide +kernel⟩, .other ?_ ?_ ?_ ?_⟩, fun a ha => (by cases ha)⟩
    all_goals decide +kernel
  exact ⟨some, plain, parse_render? some plain⟩

end AddressList

end Mailroom
