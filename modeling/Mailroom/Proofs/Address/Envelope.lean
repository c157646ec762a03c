import Mailroom.Address.Envelope
import Mailroom.Proofs.Address.AddrSpec
import Mathlib.Data.List.TakeWhile

/-!
# Addresses read once more for the envelope

An address of a header field is a local part, written with quotation marks if need be, a sign and a
domain. The older reading for the envelope is not made for all of them.

* `Envelope.readLocal_written`: the local part, which may lose runs of blanks between its dots;
* `Envelope.isDomainOf_readDomain`, `Envelope.readDomain_plain`: the domain, which stays if it has
  no mark but dots;
* `Envelope.bare_plain`: what is left of an address with such a domain;
* `Envelope.bare_eq_self_iff`: the addresses that are left as they are;
* `Envelope.bare_literal`: with a domain in brackets nothing is left.
-/

namespace Mailroom.Envelope

open Address.LocalPart

/-! ### Blanks and quotations -/

/-- A blank or a comment begins with this code point. -/
def startsSkip (c : CodePoint) : Bool := Lexeme.isSpace c || isLineBreak c || c.val == 0x28

theorem skip_of_not_startsSkip {c : CodePoint} (h : startsSkip c = false) (t : Text) :
    skip 0 false (c :: t) = ([], c :: t) := by
  simp only [startsSkip, Bool.or_eq_false_iff] at h
  simp only [skip, h, Bool.false_eq_true, if_false]

theorem afterBlank_of_not_startsSkip {c : CodePoint} (h : startsSkip c = false) (t : Text) :
    afterBlank (c :: t) = c :: t := by
  rw [afterBlank, skip_of_not_startsSkip h]

/-- What is neither a blank nor a mark, dots apart, begins no blank. -/
theorem startsSkip_eq_false {c : CodePoint} (space : Lexeme.isSpace c = false)
    (lineBreak : isLineBreak c = false) (plain : isMark c = true → c = CodePoint.ofChar '.') :
    startsSkip c = false := by
  have paren : c ≠ CodePoint.ofChar '(' := fun e => by
    rw [e] at plain
    exact absurd (plain (by decide)) (by decide)
  rw [startsSkip, space, lineBreak, Bool.false_or, Bool.false_or]
  exact CodePoint.val_beq_eq_false paren

/-- What ends no word ends no atom, dots apart. -/
theorem endsAtom_of_endsWord {c : CodePoint} (h : endsWord c = false)
    (dot : c ≠ CodePoint.ofChar '.') : endsAtom c = false := by
  have : (c.val == 0x2E) = false := CodePoint.val_beq_eq_false dot
  simpa [endsWord, bne, this] using h

theorem startsSkip_of_endsWord {c : CodePoint} (h : endsWord c = false) : startsSkip c = false := by
  by_cases dot : c = CodePoint.ofChar '.'
  · rw [dot]
    decide
  · have ends := endsAtom_of_endsWord h dot
    simp only [endsAtom, Bool.or_eq_false_iff] at ends
    exact startsSkip_eq_false ends.1.2 ends.2 fun mark => by simp [mark] at ends

/-- A quotation ends every word. -/
theorem val_beq_quote_of_endsWord {c : CodePoint} (h : endsWord c = false) :
    (c.val == 0x22) = false :=
  CodePoint.val_beq_eq_false (b := CodePoint.ofChar '"') fun e => by
    rw [e] at h
    exact absurd h (by decide)

/-- A quotation is read as the text that was put into it. -/
theorem delimited_escaped {s : Text} (unbroken : ∀ c ∈ s, isLineBreak c = false) (rest : Text) :
    delimited (CodePoint.ofChar '"') false (s.escaped ++ CodePoint.ofChar '"' :: rest) =
      (s, rest) := by
  induction s with
  | nil => rw [Text.escaped, List.flatMap_nil, List.nil_append, delimited]; simp
  | cons c s ih =>
    rw [List.forall_mem_cons] at unbroken
    have others := ih unbroken.2
    rcases Address.QuotedString.escaped_cons c s with ⟨-, e⟩ | ⟨slash, quote, e⟩
    · rw [e, List.cons_append, List.cons_append, delimited, if_neg (by simp), if_neg (by decide),
        if_pos (by decide), delimited, if_pos rfl, others]
    · have slash : (c.val == 0x5C) = false := CodePoint.val_beq_eq_false slash
      have plain : ¬ (c = CodePoint.ofChar '"' || c.val == 0x0D) = true := by
        have := (Bool.or_eq_false_iff.1 unbroken.1).1
        simp [quote, this]
      rw [e, List.cons_append, delimited, if_neg (by simp), if_neg plain, slash, others]
      rfl

/-- A quotation is left out when parentheses are counted. -/
theorem stripFrom_escaped (s held rest : Text) :
    stripFrom (some held) false (s.escaped ++ CodePoint.ofChar '"' :: rest) =
      stripFrom none false rest := by
  induction s generalizing held with
  | nil => rw [Text.escaped, List.flatMap_nil, List.nil_append, stripFrom]; rfl
  | cons c s ih =>
    rcases Address.QuotedString.escaped_cons c s with ⟨-, e⟩ | ⟨slash, quote, e⟩
    · rw [e, List.cons_append, List.cons_append, stripFrom, if_neg (by simp), if_pos (by decide)]
      show stripFrom (some (CodePoint.ofChar '\\' :: held)) true _ = _
      rw [stripFrom, if_pos rfl]
      exact ih _
    · have slash : (c.val == 0x5C) = false := CodePoint.val_beq_eq_false slash
      have quote : (c.val == 0x22) = false := CodePoint.val_beq_eq_false quote
      rw [e, List.cons_append, stripFrom, if_neg (by simp), slash, quote]
      exact ih _

theorem stripFrom_of_not_mem {t : Text} (h : CodePoint.ofChar '"' ∉ t) (escaped : Bool) :
    stripFrom none escaped t = t := by
  induction t generalizing escaped with
  | nil => rfl
  | cons c t ih =>
    rw [List.mem_cons, not_or] at h
    have quote : (c.val == 0x22) = false := CodePoint.val_beq_eq_false (Ne.symm h.1)
    unfold stripFrom
    simp only [quote, ih h.2, Bool.false_eq_true, if_false, ite_self]

theorem balancedFrom_of_not_mem {t : Text}
    (h : ∀ c ∈ t, c ≠ CodePoint.ofChar '(' ∧ c ≠ CodePoint.ofChar ')') (depth : Nat)
    (escaped : Bool) : balancedFrom depth escaped t = (depth == 0) := by
  induction t generalizing escaped with
  | nil => rfl
  | cons c t ih =>
    rw [List.forall_mem_cons] at h
    have opening : (c.val == 0x28) = false := CodePoint.val_beq_eq_false h.1.1
    have closing : (c.val == 0x29) = false := CodePoint.val_beq_eq_false h.1.2
    unfold balancedFrom
    simp only [opening, closing, ih h.2, Bool.false_eq_true, if_false, ite_self]

/-! ### Words before the sign -/

theorem readWords_sign (fuel : Nat) (rest : Text) :
    readWords fuel (CodePoint.ofChar '@' :: rest) = ([], CodePoint.ofChar '@' :: rest) := by
  cases fuel with
  | zero => rfl
  | succ fuel =>
    rw [readWords, afterBlank_of_not_startsSkip (by decide)]
    rfl

/-- What stands in dotted atoms without a break ends no word of a name. -/
theorem endsWord_of_endsDottedAtom {c : CodePoint} (h : Lexeme.endsDottedAtom c = false)
    (unbroken : isLineBreak c = false) : endsWord c = false := by
  unfold endsWord
  by_cases dot : c = CodePoint.ofChar '.'
  · rw [dot]
    decide
  · have : Lexeme.endsAtom c = false := endsAtom_of_endsDottedAtom h dot
    rw [Lexeme.endsAtom, Bool.or_eq_false_iff] at this
    rw [endsAtom, isMark, this.1, this.2, unbroken]
    rfl

/-- No blank stands before a written local part. -/
theorem afterBlank_written {s : Text} (nonempty : s ≠ [])
    (unbroken : ∀ c ∈ s, isLineBreak c = false) (rest : Text) :
    afterBlank (written s ++ rest) = written s ++ rest := by
  unfold written
  split
  · exact afterBlank_of_not_startsSkip (by decide) _
  · next raw =>
    obtain ⟨c, t, rfl⟩ := List.exists_cons_of_ne_nil nonempty
    have hc : Lexeme.endsDottedAtom c = false := by
      simpa using List.any_eq_false.1 (Bool.eq_false_iff.2 raw) c List.mem_cons_self
    exact afterBlank_of_not_startsSkip (startsSkip_of_endsWord
      (endsWord_of_endsDottedAtom hc (unbroken c List.mem_cons_self))) _

/-- A written local part is taken for a word of a name, up to the sign. -/
theorem readWords_written {s : Text} (nonempty : s ≠ []) (unbroken : ∀ c ∈ s, isLineBreak c = false)
    (fuel : Nat) (rest : Text) :
    (readWords (fuel + 1) (written s ++ CodePoint.ofChar '@' :: rest)).2 =
      CodePoint.ofChar '@' :: rest := by
  unfold written
  split
  · rw [Text.inQuotes_eq, List.cons_append, List.append_assoc, List.singleton_append, readWords,
      afterBlank_of_not_startsSkip (by decide)]
    have word := delimited_escaped unbroken (CodePoint.ofChar '@' :: rest)
    simp only [word, readWords_sign]
    rfl
  · next raw =>
    obtain ⟨c, t, rfl⟩ := List.exists_cons_of_ne_nil nonempty
    have plain : ∀ d ∈ c :: t, endsWord d = false := fun d hd =>
      endsWord_of_endsDottedAtom (by simpa using List.any_eq_false.1 (Bool.eq_false_iff.2 raw) d hd)
        (unbroken d hd)
    have hc := plain c List.mem_cons_self
    have quote := val_beq_quote_of_endsWord hc
    obtain ⟨word, others⟩ := Lexeme.span_of_ends plain (d := CodePoint.ofChar '@') (by decide) rest
    rw [List.cons_append] at word others ⊢
    rw [readWords, afterBlank_of_not_startsSkip (startsSkip_of_endsWord hc)]
    simp only [quote, hc, word, others, readWords_sign, Bool.false_eq_true, if_false]

/-! ### Local parts -/

/-- No run between the dots of a text is nothing but blanks. -/
def HasNoBlankRun (s : Text) : Prop :=
  ∀ run ∈ Text.splitOn (CodePoint.ofChar '.') s, run = [] ∨ run.isBlank = false

instance (s : Text) : Decidable (HasNoBlankRun s) := inferInstanceAs (Decidable (∀ _ ∈ _, _))

theorem hasNoBlankRun_dot (t : Text) :
    HasNoBlankRun (CodePoint.ofChar '.' :: t) ↔ HasNoBlankRun t := by
  unfold HasNoBlankRun
  rw [← List.nil_append (CodePoint.ofChar '.' :: t), Text.splitOn_append (by simp),
    List.forall_mem_cons, and_iff_right (.inl rfl)]

theorem hasNoBlankRun_append {run t : Text} (hrun : IsRun run) (ends : EndsRun t) :
    HasNoBlankRun (run ++ t) ↔ run.isBlank = false ∧ HasNoBlankRun t := by
  have outside : CodePoint.ofChar '.' ∉ run := fun h => hrun.2 _ h rfl
  have filled : run = [] ∨ run.isBlank = false ↔ run.isBlank = false :=
    or_iff_right hrun.1
  cases t with
  | nil =>
    have empty : HasNoBlankRun [] := fun run h => .inl (List.mem_singleton.1 h)
    rw [List.append_nil, and_iff_left empty, ← filled, HasNoBlankRun,
      Text.splitOn_of_not_mem outside, List.forall_mem_singleton]
  | cons d t =>
    rw [ends d t rfl, hasNoBlankRun_dot, ← filled, HasNoBlankRun, Text.splitOn_append outside,
      List.forall_mem_cons]
    rfl

/-- A piece that is not blank stays. -/
theorem dropBlankPiece_cons (piece : Text) (pieces : List Text) :
    dropBlankPiece (piece :: pieces) = if piece.isBlank then pieces else piece :: pieces := rfl

/-- No blank stands before the rest of a local part. -/
theorem skip_append_sign {t : Text} (plain : ∀ c ∈ t, endsWord c = false) (rest : Text) :
    skip 0 false (t ++ CodePoint.ofChar '@' :: rest) = ([], t ++ CodePoint.ofChar '@' :: rest) := by
  cases t with
  | nil => exact skip_of_not_startsSkip (by decide) rest
  | cons c t => exact skip_of_not_startsSkip (startsSkip_of_endsWord (plain c List.mem_cons_self)) _

/-- A run before a dot or before the sign is one piece. -/
theorem readLocal_run {run t : Text} (hrun : IsRun run) (ends : EndsRun t)
    (plain : ∀ c ∈ run ++ t, endsWord c = false) (fuel : Nat) (pieces : List Text) (rest : Text) :
    readLocal (fuel + 1) pieces (run ++ (t ++ CodePoint.ofChar '@' :: rest)) =
      readLocal fuel (run :: pieces) (t ++ CodePoint.ofChar '@' :: rest) := by
  have atom : ∀ c ∈ run, endsAtom c = false := fun c hc =>
    endsAtom_of_endsWord (plain c (List.mem_append_left t hc)) (hrun.2 c hc)
  obtain ⟨d, rest', tail, hd⟩ : ∃ d rest', t ++ CodePoint.ofChar '@' :: rest = d :: rest' ∧
      endsAtom d = true := by
    cases t with
    | nil => exact ⟨_, _, rfl, by decide⟩
    | cons d t => exact ⟨_, _, rfl, by rw [ends d t rfl]; decide⟩
  obtain ⟨word, others⟩ := Lexeme.span_of_ends atom hd rest'
  have unblank := skip_append_sign (fun c hc => plain c (List.mem_append_right run hc)) rest
  rw [← tail] at word others
  obtain ⟨c, u, rfl⟩ := List.exists_cons_of_ne_nil hrun.1
  have dot : (c.val == 0x2E) = false := CodePoint.val_beq_eq_false (hrun.2 c List.mem_cons_self)
  have hc := atom c List.mem_cons_self
  have quote := val_beq_quote_of_endsWord (plain c List.mem_cons_self)
  rw [List.cons_append] at word others ⊢
  rw [readLocal]
  simp only [dot, quote, hc, word, others, unblank, Bool.and_false, Bool.false_eq_true, if_false,
    List.isEmpty_nil, if_true]

/-- A local part without quotation marks is read run by run; runs of blanks are lost. -/
theorem readLocal_plain {s : Text} (plain : ∀ c ∈ s, endsWord c = false) {fuel : Nat}
    (enough : s.length < fuel) (pieces : List Text)
    (settled : (∃ c t, s = c :: t ∧ c ≠ CodePoint.ofChar '.') → dropBlankPiece pieces = pieces)
    (rest : Text) :
    ∃ kept, readLocal fuel pieces (s ++ CodePoint.ofChar '@' :: rest) =
        (kept ++ dropBlankPiece pieces, CodePoint.ofChar '@' :: rest) ∧
      kept.reverse.flatten.Sublist s ∧ (kept.reverse.flatten = s ↔ HasNoBlankRun s) := by
  induction fuel generalizing s pieces with
  | zero => omega
  | succ fuel ih =>
    cases s with
    | nil =>
      exact ⟨[], rfl, .slnil, iff_of_true rfl fun run h => .inl (List.mem_singleton.1 h)⟩
    | cons c t =>
      rw [List.length_cons] at enough
      by_cases dot : c = CodePoint.ofChar '.'
      · -- whatever piece was the last is looked at before the dot becomes one
        have later := (List.forall_mem_cons.1 plain).2
        obtain ⟨kept, reads, shorter, same⟩ := ih later (by omega)
          ([CodePoint.ofChar '.'] :: dropBlankPiece pieces) (fun _ => rfl)
        have unblank : afterBlank (t ++ CodePoint.ofChar '@' :: rest) = _ :=
          congrArg Prod.snd (skip_append_sign later rest)
        refine ⟨kept ++ [[c]], ?_, ?_, ?_⟩
        · rw [dot, List.cons_append, readLocal, if_pos (by decide), unblank, reads]
          simp [dropBlankPiece_cons, show Text.isBlank [CodePoint.ofChar '.'] = false by decide]
        · simpa using shorter
        · rw [dot, hasNoBlankRun_dot, ← same]
          simp
      · obtain ⟨run, t', e, hrun, ends, shorter⟩ := run_cases dot t
        have hpieces := settled ⟨c, t, rfl, dot⟩
        rw [e] at plain ⊢
        obtain ⟨kept, reads, shorter', same⟩ :=
          ih (fun c hc => plain c (List.mem_append_right run hc)) (by omega)
            (run :: pieces) fun ⟨d, u, hd, dot'⟩ => absurd (ends d u hd) dot'
        rw [List.append_assoc, readLocal_run hrun ends plain, reads, dropBlankPiece_cons,
          hasNoBlankRun_append hrun ends, ← same]
        have filled : 0 < run.length := List.length_pos_iff.2 hrun.1
        cases blank : Text.isBlank run with
        | true =>
          refine ⟨kept, by rw [if_pos rfl, hpieces],
            shorter'.trans (List.sublist_append_right run t'), fun lost => ?_,
            fun h => by cases h.1⟩
          have := shorter'.length_le
          rw [lost, List.length_append] at this
          omega
        | false =>
          refine ⟨kept ++ [run], ?_, ?_, ?_⟩
          · rw [if_neg (by simp), hpieces, List.append_assoc]
            rfl
          · simpa using shorter'
          · simp

theorem plain_of_not_any {s : Text} (raw : s.any Lexeme.endsDottedAtom = false)
    (unbroken : ∀ c ∈ s, isLineBreak c = false) : ∀ c ∈ s, endsWord c = false := fun c hc =>
  endsWord_of_endsDottedAtom (by simpa using List.any_eq_false.1 raw c hc) (unbroken c hc)

/-- A local part between quotation marks is one piece. -/
theorem readLocal_quoted {s : Text} (unbroken : ∀ c ∈ s, isLineBreak c = false) (fuel : Nat)
    (rest : Text) :
    readLocal (fuel + 2) [] (s.inQuotes ++ CodePoint.ofChar '@' :: rest) =
      ([s.inQuotes], CodePoint.ofChar '@' :: rest) := by
  have quoted := delimited_escaped unbroken (CodePoint.ofChar '@' :: rest)
  have unblank := skip_of_not_startsSkip (c := CodePoint.ofChar '@') (by decide) rest
  have filled : Text.isBlank s.inQuotes = false := by
    rw [Text.inQuotes_eq, Text.isBlank, List.all_cons,
      show (CodePoint.ofChar '"').isBlank = false by decide, Bool.false_and]
  have sign : readLocal (fuel + 1) [s.inQuotes] (CodePoint.ofChar '@' :: rest) =
      ([s.inQuotes], CodePoint.ofChar '@' :: rest) := by
    rw [readLocal, if_neg (by decide), if_pos (by decide), dropBlankPiece_cons, filled]
    rfl
  have whole : s.inQuotes ++ CodePoint.ofChar '@' :: rest = CodePoint.ofChar '"' ::
      (s.escaped ++ CodePoint.ofChar '"' :: CodePoint.ofChar '@' :: rest) := by
    rw [Text.inQuotes_eq, List.cons_append, List.append_assoc, List.singleton_append]
  rw [whole, readLocal, if_neg (by decide), if_neg (by decide), if_pos (by decide)]
  simp only [quoted, unblank, List.isEmpty_nil, if_true]
  exact sign

/-- **A written local part is read up to the sign**, and it is the same unless it is without
quotation marks and a run of blanks between its dots is lost. -/
theorem readLocal_written {s : Text} (unbroken : ∀ c ∈ s, isLineBreak c = false) (rest : Text) :
    ∃ pieces, readLocal (written s ++ CodePoint.ofChar '@' :: rest).length []
        (written s ++ CodePoint.ofChar '@' :: rest) = (pieces, CodePoint.ofChar '@' :: rest) ∧
      pieces.reverse.flatten.Sublist (written s) ∧
      (pieces.reverse.flatten = written s ↔
        s.any Lexeme.endsDottedAtom = true ∨ HasNoBlankRun s) := by
  unfold written
  split
  · next quoted =>
    obtain ⟨fuel, enough⟩ : ∃ fuel,
        (s.inQuotes ++ CodePoint.ofChar '@' :: rest).length = fuel + 2 :=
      ⟨s.escaped.length + rest.length + 1, by rw [Text.inQuotes_eq]; simp; omega⟩
    rw [enough]
    exact ⟨_, readLocal_quoted unbroken fuel rest, by simp, iff_of_true (by simp) (.inl quoted)⟩
  · next raw =>
    rw [Bool.not_eq_true] at raw
    have enough : s.length < (s ++ CodePoint.ofChar '@' :: rest).length := by simp
    obtain ⟨kept, reads, shorter, same⟩ :=
      readLocal_plain (plain_of_not_any raw unbroken) enough [] (fun _ => rfl) rest
    exact ⟨kept, by simpa [dropBlankPiece] using reads, shorter, by rw [same, raw]; simp⟩

/-! ### Domains -/

/-- What has been read of a domain is kept, unless a second sign is met. -/
theorem readDomain_keeps (fuel : Nat) (found t : Text) :
    (readDomain fuel found t).1 = [] ∨ found <+: (readDomain fuel found t).1 := by
  induction fuel generalizing found t with
  | zero => exact .inr (List.prefix_refl _)
  | succ fuel ih =>
    -- a piece more has been read in each step that goes on
    have more (piece t : Text) : (readDomain fuel (found ++ piece) t).1 = [] ∨
        found <+: (readDomain fuel (found ++ piece) t).1 :=
      (ih (found ++ piece) t).imp_right (List.prefix_append _ _).trans
    cases t with
    | nil => exact .inr (List.prefix_refl _)
    | cons c t =>
      unfold readDomain
      dsimp only
      split
      · exact ih found t
      split
      · exact ih found _
      split
      · rw [List.append_assoc, List.append_assoc]
        exact more _ _
      split
      · exact more _ _
      split
      · exact .inl rfl
      split
      · exact .inr (List.prefix_refl _)
      · exact more _ _

theorem length_afterComment_le (depth : Nat) (escaped : Bool) (t : Text) :
    (afterComment depth escaped t).length ≤ t.length := by
  induction t generalizing depth escaped with
  | nil => exact Nat.le_refl _
  | cons c t ih =>
    have later (depth : Nat) (escaped : Bool) :
        (afterComment depth escaped t).length ≤ (c :: t).length :=
      Nat.le_succ_of_le (ih depth escaped)
    cases depth with
    | zero => exact Nat.le_refl _
    | succ depth =>
      unfold afterComment
      dsimp only
      split_ifs <;> exact later _ _

theorem length_skip_le (depth : Nat) (escaped : Bool) (t : Text) :
    (skip depth escaped t).2.length ≤ t.length := by
  induction t generalizing depth escaped with
  | nil => exact Nat.le_refl _
  | cons c t ih =>
    have later (depth : Nat) (escaped : Bool) :
        (skip depth escaped t).2.length ≤ (c :: t).length :=
      Nat.le_succ_of_le (ih depth escaped)
    cases depth with
    | zero =>
      unfold skip
      dsimp only
      split_ifs
      · exact later _ _
      · exact later _ _
      · exact later _ _
      · exact Nat.le_refl _
    | succ depth =>
      unfold skip
      dsimp only
      split_ifs <;> exact later _ _

/-- What may come of a domain after what has been read of it: it has a bracket, or it is no longer
than what there was and has no mark but dots among what is new. -/
def IsDomainOf (found t domain : Text) : Prop :=
  CodePoint.ofChar '[' ∈ domain ∨
    domain.length ≤ found.length + t.length ∧
      ∀ c ∈ domain, c ∈ found ∨ (isMark c = true → c = CodePoint.ofChar '.')

theorem isDomainOf_nil (found t : Text) : IsDomainOf found t [] :=
  .inr ⟨Nat.zero_le _, fun _ hc => by cases hc⟩

theorem isDomainOf_self (found t : Text) : IsDomainOf found t found :=
  .inr ⟨Nat.le_add_right _ _, fun _ hc => .inl hc⟩

/-- What is left out only makes it shorter. -/
theorem IsDomainOf.of_length_le {found t t' domain : Text} (h : IsDomainOf found t' domain)
    (shorter : t'.length ≤ t.length) : IsDomainOf found t domain :=
  h.imp_right fun h => ⟨h.1.trans (Nat.add_le_add_left shorter _), h.2⟩

/-- A piece without marks goes over from what there was to what was read. -/
theorem IsDomainOf.of_append {found piece t domain : Text}
    (h : IsDomainOf (found ++ piece) t domain)
    (plain : ∀ c ∈ piece, isMark c = true → c = CodePoint.ofChar '.') :
    IsDomainOf found (piece ++ t) domain := by
  refine h.imp_right fun ⟨le, from'⟩ => ⟨?_, fun c hc => ?_⟩
  · simpa [Nat.add_assoc] using le
  · rcases from' c hc with hc | hc
    · exact (List.mem_append.1 hc).imp_right (plain c)
    · exact .inr hc

/-- A domain is read without brackets only if what was read has no mark but dots and is no longer
than what there was. -/
theorem isDomainOf_readDomain (fuel : Nat) (found t : Text) :
    IsDomainOf found t (readDomain fuel found t).1 := by
  induction fuel generalizing found t with
  | zero => exact isDomainOf_self found t
  | succ fuel ih =>
    cases t with
    | nil => exact isDomainOf_self found []
    | cons c t =>
      unfold readDomain
      dsimp only
      split_ifs with space comment literal dot sign ends
      · exact (ih found t).of_length_le (Nat.le_succ _)
      · exact (ih found _).of_length_le (Nat.le_succ_of_le (length_afterComment_le 1 false t))
      · rcases readDomain_keeps fuel (found ++ Text.ofString "[" ++
          (delimited (CodePoint.ofChar ']') false t).1 ++ Text.ofString "]")
          (delimited (CodePoint.ofChar ']') false t).2 with e | ⟨rest, e⟩
        · rw [e]
          exact isDomainOf_nil found _
        · refine .inl ?_
          rw [← e]
          simp [Text.ofString]
      · exact (ih (found ++ [c]) t).of_append
          (List.forall_mem_singleton.2 fun _ => CodePoint.ext (eq_of_beq dot))
      · exact isDomainOf_nil found _
      · exact isDomainOf_self found _
      · have plain : ∀ d ∈ (c :: t).takeWhile fun d => !endsAtom d,
            isMark d = true → d = CodePoint.ofChar '.' := fun d hd mark => by
          have := List.mem_takeWhile_imp hd
          simp [endsAtom, mark] at this
        have piece := (ih (found ++ (c :: t).takeWhile fun d => !endsAtom d)
          ((c :: t).dropWhile fun d => !endsAtom d)).of_append plain
        rwa [List.takeWhile_append_dropWhile] at piece

theorem isLineBreak_of_isBlank {c : CodePoint} (h : c.isBlank = false) : isLineBreak c = false := by
  refine Bool.eq_false_iff.2 fun e => ?_
  rw [isLineBreak, Bool.or_eq_true, beq_iff_eq, beq_iff_eq] at e
  rcases e with e | e <;> rw [CodePoint.isBlank, e] at h <;> exact absurd h (by decide)

theorem isSpace_of_isBlank {c : CodePoint} (h : c.isBlank = false) : Lexeme.isSpace c = false :=
  Bool.eq_false_iff.2 fun space => by
    rw [Lexeme.isBlank_of_isSpace space] at h
    cases h

/-- No blank stands before a domain without blanks and without any mark but dots. -/
theorem startsSkip_of_plain {c : CodePoint} (unblank : c.isBlank = false)
    (plain : isMark c = true → c = CodePoint.ofChar '.') : startsSkip c = false :=
  startsSkip_eq_false (isSpace_of_isBlank unblank) (isLineBreak_of_isBlank unblank) plain

/-- A domain without blanks and without any mark but dots is read as it is. -/
theorem readDomain_plain {fuel : Nat} {t : Text} (enough : t.length ≤ fuel) (found : Text)
    (unblank : ∀ c ∈ t, c.isBlank = false)
    (plain : ∀ c ∈ t, isMark c = true → c = CodePoint.ofChar '.') :
    readDomain fuel found t = (found ++ t, []) := by
  induction fuel generalizing found t with
  | zero =>
    rw [List.length_eq_zero_iff.1 (Nat.le_zero.1 enough), List.append_nil]
    rfl
  | succ fuel ih =>
    cases t with
    | nil => rw [List.append_nil, readDomain]
    | cons c t =>
      rw [List.length_cons] at enough
      have unmarked (d : CodePoint) (hd : isMark d = true ∧ d ≠ CodePoint.ofChar '.') :
          (c.val == d.val) = false := CodePoint.val_beq_eq_false fun e =>
        hd.2 (e ▸ plain c List.mem_cons_self (e ▸ hd.1))
      have start :=
        startsSkip_of_plain (unblank c List.mem_cons_self) (plain c List.mem_cons_self)
      simp only [startsSkip, Bool.or_eq_false_iff] at start
      obtain ⟨⟨space, lineBreak⟩, comment⟩ := start
      have literal : (c.val == 0x5B) = false := unmarked (CodePoint.ofChar '[') (by decide)
      have sign : (c.val == 0x40) = false := unmarked (CodePoint.ofChar '@') (by decide)
      unfold readDomain
      simp only [space, comment, literal, sign, Bool.false_eq_true, if_false]
      split
      · rw [ih (by omega) _ (fun d hd => unblank d (List.mem_cons_of_mem c hd)) fun d hd =>
          plain d (List.mem_cons_of_mem c hd), List.append_assoc]
        rfl
      · next dot =>
        have mark : isMark c = false := Bool.eq_false_iff.2 fun h => dot (by
          rw [plain c List.mem_cons_self h]
          decide)
        have ends : endsAtom c = false := by
          rw [endsAtom, mark, space, lineBreak]
          rfl
        have later {d : CodePoint} (hd : d ∈ (c :: t).dropWhile fun d => !endsAtom d) :
            d ∈ c :: t := List.dropWhile_subset _ hd
        have shorter : ((c :: t).dropWhile fun d => !endsAtom d).length ≤ fuel := by
          rw [List.dropWhile_cons_of_pos (by simp [ends])]
          exact (List.length_dropWhile_le _ _).trans (by omega)
        rw [ends, ih shorter _ (fun d hd => unblank d (later hd)) fun d hd => plain d (later hd),
          List.append_assoc, List.takeWhile_append_dropWhile]
        rfl

/-! ### Whole addresses -/

/-- Outside of quotation marks, an address whose domain has no mark but dots has no parentheses. -/
theorem isBalanced_written {s d : Text}
    (plain : ∀ c ∈ d, isMark c = true → c = CodePoint.ofChar '.') :
    isBalanced (written s ++ CodePoint.ofChar '@' :: d) = true := by
  have unmarked (m : CodePoint) (hm : isMark m = true ∧ m ≠ CodePoint.ofChar '.' ∧
      m ≠ CodePoint.ofChar '@') : m ∉ CodePoint.ofChar '@' :: d := fun h =>
    (List.mem_cons.1 h).elim hm.2.2 fun h => hm.2.1 (plain m h hm.1)
  have quote := unmarked (CodePoint.ofChar '"') (by decide)
  have opening := unmarked (CodePoint.ofChar '(') (by decide)
  have closing := unmarked (CodePoint.ofChar ')') (by decide)
  unfold isBalanced stripQuoted written
  split
  · rw [Text.inQuotes_eq, List.cons_append, List.append_assoc, List.singleton_append, stripFrom,
      if_neg (by simp), if_neg (by decide), if_pos (by decide)]
    rw [stripFrom_escaped, stripFrom_of_not_mem quote, balancedFrom_of_not_mem]
    · rfl
    · exact fun c hc => ⟨fun e => opening (e ▸ hc), fun e => closing (e ▸ hc)⟩
  · next raw =>
    have absent (m : CodePoint) (hm : Lexeme.endsDottedAtom m = true)
        (h : m ∉ CodePoint.ofChar '@' :: d) : m ∉ s ++ CodePoint.ofChar '@' :: d := fun mem =>
      (List.mem_append.1 mem).elim
        (fun mem => raw (List.any_eq_true.2 ⟨m, mem, hm⟩)) h
    rw [stripFrom_of_not_mem (absent _ (by decide) quote), balancedFrom_of_not_mem]
    · rfl
    · exact fun c hc => ⟨fun e => absent _ (by decide) opening (e ▸ hc),
        fun e => absent _ (by decide) closing (e ▸ hc)⟩

section Whole

variable {s : Text} (nonempty : s ≠ []) (unbroken : ∀ c ∈ s, isLineBreak c = false)

include nonempty unbroken

/-- An address as it stands in an envelope: a written local part, a sign and a domain. -/
theorem readSpec_written (d : Text) :
    ∃ local' : Text, local'.Sublist (written s) ∧
      (local' = written s ↔ s.any Lexeme.endsDottedAtom = true ∨ HasNoBlankRun s) ∧
      readSpec (written s ++ CodePoint.ofChar '@' :: d) =
        let (domain, rest) := readDomain (afterBlank d).length [] (afterBlank d)
        (if domain.isEmpty then [] else local' ++ CodePoint.ofChar '@' :: domain, rest) := by
  obtain ⟨pieces, reads, shorter, same⟩ := readLocal_written unbroken d
  refine ⟨pieces.reverse.flatten, shorter, same, ?_⟩
  have start : afterBlank (written s ++ CodePoint.ofChar '@' :: d) =
      written s ++ CodePoint.ofChar '@' :: d := afterBlank_written nonempty unbroken _
  unfold readSpec
  simp only [start, reads]
  rw [if_pos (by decide)]
  simp

/-- A text that begins with an address has that as its first entry. -/
theorem readAll_written (d : Text) (fuel : Nat) :
    let t := written s ++ CodePoint.ofChar '@' :: d
    readAll (fuel + 1) t = (readSpec t).1 :: readAll fuel (afterComma (readSpec t).2) := by
  intro t
  have start : afterBlank t = t := afterBlank_written nonempty unbroken _
  have words : (readWords t.length t).2 = CodePoint.ofChar '@' :: d := by
    obtain ⟨n, enough⟩ : ∃ n, t.length = n + 1 :=
      Nat.exists_eq_succ_of_ne_zero (by simp [t])
    rw [enough]
    exact readWords_written nonempty unbroken n d
  have sign : afterBlank (CodePoint.ofChar '@' :: d) = CodePoint.ofChar '@' :: d :=
    afterBlank_of_not_startsSkip (by decide) d
  have entry : readEntry (2 * t.length + 2) t = ([(readSpec t).1], afterComma (readSpec t).2) := by
    rw [readEntry, start]
    simp only [words, sign]
    rw [if_pos (by decide)]
  have filled : t.isEmpty = false := by simp [t]
  rw [readAll, filled, entry]
  rfl

/-- What is left of an address is nothing, or what was read of it, and then that has no bracket. -/
theorem bare_cases (d : Text) :
    let t := written s ++ CodePoint.ofChar '@' :: d
    bare t = [] ∨ bare t = (readSpec t).1 ∧ CodePoint.ofChar '[' ∉ (readSpec t).1 := by
  intro t
  unfold bare
  rw [readAll_written nonempty unbroken]
  split
  · exact .inl rfl
  split
  · next spec e =>
    obtain ⟨rfl, -⟩ := List.cons.inj e
    split
    · exact .inl rfl
    · next brackets =>
      refine .inr ⟨rfl, fun mem => brackets (List.any_eq_true.2 ⟨_, mem, by decide⟩)⟩
  · exact .inl rfl

/-- Of an address without an opening bracket, whose domain has no mark but dots, nothing is lost but
runs of blanks between the dots of a local part without quotation marks. -/
theorem bare_plain {d : Text} (domain : d ≠ []) (unblank : ∀ c ∈ d, c.isBlank = false)
    (brackets : CodePoint.ofChar '[' ∉ written s ++ CodePoint.ofChar '@' :: d)
    (plain : ∀ c ∈ d, isMark c = true → c = CodePoint.ofChar '.') :
    ∃ local' : Text, local'.Sublist (written s) ∧
      (local' = written s ↔ s.any Lexeme.endsDottedAtom = true ∨ HasNoBlankRun s) ∧
      bare (written s ++ CodePoint.ofChar '@' :: d) = local' ++ CodePoint.ofChar '@' :: d := by
  obtain ⟨local', part, same, reads⟩ := readSpec_written nonempty unbroken d
  refine ⟨local', part, same, ?_⟩
  obtain ⟨c, u, rfl⟩ := List.exists_cons_of_ne_nil domain
  have start : afterBlank (c :: u) = c :: u := afterBlank_of_not_startsSkip
    (startsSkip_of_plain (unblank c List.mem_cons_self) (plain c List.mem_cons_self)) u
  have whole : readSpec (written s ++ CodePoint.ofChar '@' :: c :: u) =
      (local' ++ CodePoint.ofChar '@' :: c :: u, []) := by
    rw [reads, start, readDomain_plain (Nat.le_refl _) [] unblank plain]
    rfl
  have others : ∀ fuel, readAll fuel (afterComma []) = [] := fun fuel => by cases fuel <;> rfl
  unfold bare
  rw [isBalanced_written plain, readAll_written nonempty unbroken, whole]
  simp only [others]
  rw [if_neg (by simp), if_neg]
  intro h
  obtain ⟨c, hc, bracket⟩ := List.any_eq_true.1 h
  rw [CodePoint.ext (b := CodePoint.ofChar '[') (eq_of_beq bracket)] at hc
  exact brackets ((part.append_right _).subset hc)

/-- **The addresses that are left as they are**: they have no opening bracket, the local part is
between quotation marks or has no run of blanks between its dots, and the domain has no mark but
dots. -/
theorem bare_eq_self_iff {d : Text} (domain : d ≠ []) (unblank : ∀ c ∈ d, c.isBlank = false) :
    let t := written s ++ CodePoint.ofChar '@' :: d
    bare t = t ↔ CodePoint.ofChar '[' ∉ t ∧
      (s.any Lexeme.endsDottedAtom = true ∨ HasNoBlankRun s) ∧
      ∀ c ∈ d, isMark c = true → c = CodePoint.ofChar '.' := by
  intro t
  constructor
  · intro h
    obtain ⟨local', part, same, reads⟩ := readSpec_written nonempty unbroken d
    rcases bare_cases nonempty unbroken d with e | ⟨e, brackets⟩
    · exact absurd (h.symm.trans e) (by simp [t])
    -- what was read is all there was, so neither of its two parts can have become shorter
    rw [show bare (written s ++ CodePoint.ofChar '@' :: d) = t from h] at e
    rw [← e] at brackets
    rcases isDomainOf_readDomain (afterBlank d).length [] (afterBlank d) with bracket | ⟨le, plain⟩
    all_goals
      rw [reads] at e
      dsimp only at e
      split at e
      · exact absurd e (by simp [t])
    · exact absurd (e ▸ List.mem_append_right _ (List.mem_cons_of_mem _ bracket)) brackets
    · have le' : (afterBlank d).length ≤ d.length := length_skip_le 0 false d
      have shorter := part.length_le
      have lengths := congrArg List.length e
      simp only [t, List.length_append, List.length_cons, List.length_nil] at lengths le
      obtain ⟨first, second⟩ := List.append_inj e (by omega)
      obtain ⟨-, second⟩ := List.cons.inj second
      refine ⟨brackets, same.1 first.symm, fun c hc => ?_⟩
      exact (plain c (second ▸ hc)).resolve_left (by simp)
  · rintro ⟨brackets, localPart, plain⟩
    obtain ⟨local', -, same, e⟩ := bare_plain nonempty unbroken domain unblank brackets plain
    rw [same.2 localPart] at e
    exact e

/-- With a domain in brackets nothing is left. -/
theorem bare_literal (d : Text) :
    bare (written s ++ CodePoint.ofChar '@' :: CodePoint.ofChar '[' :: d) = [] := by
  rcases bare_cases nonempty unbroken (CodePoint.ofChar '[' :: d) with e | ⟨e, brackets⟩
  · exact e
  rw [e]
  obtain ⟨local', -, -, reads⟩ := readSpec_written nonempty unbroken (CodePoint.ofChar '[' :: d)
  rw [reads, afterBlank_of_not_startsSkip (by decide), List.length_cons] at brackets ⊢
  have opened : (readDomain (d.length + 1) [] (CodePoint.ofChar '[' :: d)).1 = [] ∨
      CodePoint.ofChar '[' ∈ (readDomain (d.length + 1) [] (CodePoint.ofChar '[' :: d)).1 := by
    rw [readDomain, if_neg (by decide), if_neg (by decide), if_pos (by decide)]
    refine (readDomain_keeps _ _ _).imp_right fun ⟨rest, e⟩ => ?_
    rw [← e]
    simp [Text.ofString]
  dsimp only at brackets ⊢
  rcases opened with none | bracket
  · rw [none]
    rfl
  · rw [if_neg (by simpa using List.ne_nil_of_mem bracket)] at brackets
    exact absurd (List.mem_append_right _ (List.mem_cons_of_mem _ bracket)) brackets

end Whole

end Mailroom.Envelope
