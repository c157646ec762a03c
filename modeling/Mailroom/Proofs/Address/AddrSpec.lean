import Mailroom.Address.AddrSpec
import Mailroom.Proofs.Address.Word
import Mailroom.Proofs.Perform
import Mathlib.Tactic.SplitIfs

/-!
# Reading local parts and domains back

* `Address.LocalPart.IsLegible`: a local part that is written so that it can be read;
* `Address.LocalPart.itemsOf`: the elements that dots make of a local part;
* `Address.LocalPart.read_written`: a written local part is read without a defect exactly if it is
  proper, and then it is the same;
* `Address.Domain.IsLegible`: a domain of atoms with dots between them, or a literal;
* `Address.Domain.read_legible`: such a domain is read as it is.
-/

namespace Mailroom.Address

namespace LocalPart

/-! ### Atoms with dots between them -/

theorem dottedAtom?_append {s t : Text} (h : ∀ c ∈ s, Lexeme.endsDottedAtom c = false)
    (ends : Lexeme.EndsBefore Lexeme.endsDottedAtom t) :
    Lexeme.dottedAtom? (s ++ t) = if Lexeme.isDotted s then some (s, t) else none := by
  obtain ⟨run, others⟩ := Lexeme.span_append h ends
  unfold Lexeme.dottedAtom?
  simp only [run, others]

/-- Atoms with dots between them are read up to what ends them. -/
theorem readDotted?_append {s t : Text} (h : ∀ c ∈ s, Lexeme.endsDottedAtom c = false)
    (opens : s.OpensNoWord) (ends : Lexeme.EndsBefore Lexeme.endsDottedAtom t) :
    readDotted? (s ++ t) =
      if Lexeme.isDotted s then some (Word.closed (.atom s) t) else none := by
  have signs : ∀ c u, t = c :: u → c ≠ CodePoint.ofChar '=' ∧ c ≠ CodePoint.ofChar '?' :=
    fun c u e => Lexeme.not_sign_of_endsAtom (Bool.and_eq_true_iff.1 (ends c u e)).1
  unfold readDotted?
  rw [EncodedWord.read?_append opens signs, dottedAtom?_append h ends]
  split_ifs <;> rfl

/-- A run without dots. -/
def IsRun (s : Text) : Prop := s ≠ [] ∧ ∀ c ∈ s, c ≠ CodePoint.ofChar '.'

/-- What is left behind a run is nothing, or begins with a dot. -/
def EndsRun (t : Text) : Prop := ∀ c t', t = c :: t' → c = CodePoint.ofChar '.'

/-- A text that does not begin with a dot begins with a run. -/
theorem run_cases {c : CodePoint} (hc : c ≠ CodePoint.ofChar '.') (s : Text) :
    ∃ run t, c :: s = run ++ t ∧ IsRun run ∧ EndsRun t ∧ t.length ≤ s.length := by
  induction s generalizing c with
  | nil =>
    exact ⟨[c], [], rfl, ⟨by simp, by simpa using hc⟩, fun _ _ e => (by cases e), Nat.le_refl _⟩
  | cons d s ih =>
    by_cases hd : d = CodePoint.ofChar '.'
    · exact ⟨[c], d :: s, rfl, ⟨by simp, by simpa using hc⟩,
        fun _ _ e => (List.cons.inj e).1 ▸ hd, Nat.le_refl _⟩
    · obtain ⟨run, t, e, ⟨-, plain⟩, ends, shorter⟩ := ih hd
      refine ⟨c :: run, t, by rw [e]; rfl, ⟨by simp, ?_⟩, ends, by rw [List.length_cons]; omega⟩
      exact List.forall_mem_cons.2 ⟨hc, plain⟩

theorem isDotted_dot (t : Text) : Lexeme.isDotted (CodePoint.ofChar '.' :: t) = false := by
  cases t <;> rfl

/-- Of a run, only the last code point makes a difference to what follows. -/
theorem exists_isDotted_append {run : Text} (h : IsRun run) :
    ∃ c, (c.val == 0x2E) = false ∧
      ∀ t, Lexeme.isDotted (run ++ t) = Lexeme.isDotted (c :: t) := by
  obtain ⟨nonempty, plain⟩ := h
  induction run with
  | nil => exact absurd rfl nonempty
  | cons c run ih =>
    rw [List.forall_mem_cons] at plain
    have hc : (c.val == 0x2E) = false := CodePoint.val_beq_eq_false plain.1
    cases run with
    | nil => exact ⟨c, hc, fun t => rfl⟩
    | cons d run =>
      have hd : (d.val == 0x2E) = false :=
        CodePoint.val_beq_eq_false (plain.2 d List.mem_cons_self)
      obtain ⟨last, hlast, same⟩ := ih (by simp) plain.2
      refine ⟨last, hlast, fun t => ?_⟩
      rw [List.cons_append, List.cons_append, Lexeme.isDotted, hc, hd]
      exact same t

theorem isDotted_run {run : Text} (h : IsRun run) : Lexeme.isDotted run = true := by
  obtain ⟨c, hc, same⟩ := exists_isDotted_append h
  rw [← List.append_nil run, same, Lexeme.isDotted, bne, hc]
  rfl

/-- A run before a dot makes no difference. -/
theorem isDotted_run_append {run : Text} (h : IsRun run) (t : Text) :
    Lexeme.isDotted (run ++ CodePoint.ofChar '.' :: t) = Lexeme.isDotted t := by
  obtain ⟨c, hc, same⟩ := exists_isDotted_append h
  rw [same, Lexeme.isDotted, hc]
  rfl

/-! ### The old form -/

/-- A word of one atom. -/
def ofAtom (s : Text) : LocalItem := .word ⟨none, .atom s, none⟩

/-- The elements that dots make of a local part. -/
def itemsOf : Text → List LocalItem
  | [] => []
  | c :: t =>
    if c = CodePoint.ofChar '.' then .dot :: itemsOf t
    else match itemsOf t with
      | .word ⟨none, .atom s, none⟩ :: items => ofAtom (c :: s) :: items
      | items => ofAtom [c] :: items

theorem itemsOf_dot (t : Text) : itemsOf (CodePoint.ofChar '.' :: t) = .dot :: itemsOf t := by
  rw [itemsOf, if_pos rfl]

theorem itemsOf_append {run t : Text} (h : IsRun run) (ends : EndsRun t) :
    itemsOf (run ++ t) = ofAtom run :: itemsOf t := by
  obtain ⟨nonempty, plain⟩ := h
  induction run with
  | nil => exact absurd rfl nonempty
  | cons c run ih =>
    rw [List.forall_mem_cons] at plain
    rw [List.cons_append, itemsOf, if_neg plain.1]
    cases run with
    | nil =>
      cases t with
      | nil => rfl
      | cons d t =>
        rw [ends d t rfl, List.nil_append, itemsOf_dot]
    | cons d run =>
      rw [ih (by simp) plain.2]
      rfl

/-- There is no filler among the elements. -/
theorem mem_itemsOf {s : Text} {item : LocalItem} (h : item ∈ itemsOf s) :
    item = .dot ∨ ∃ run, item = ofAtom run := by
  induction s with
  | nil => cases h
  | cons c t ih =>
    rw [itemsOf] at h
    split at h
    · exact (List.mem_cons.1 h).elim .inl ih
    · split at h
      · next run items e =>
        rw [e] at ih
        exact (List.mem_cons.1 h).elim (fun h => .inr ⟨_, h⟩) fun h => ih (List.mem_cons_of_mem _ h)
      · exact (List.mem_cons.1 h).elim (fun h => .inr ⟨_, h⟩) ih

theorem startsWithDot_cons {s : Text} {item : LocalItem} (h : item ∈ itemsOf s)
    (items : List LocalItem) : startsWithDot (item :: items) = .ok (item matches .dot) := by
  rcases mem_itemsOf h with rfl | ⟨run, rfl⟩ <;> rfl

/-- What ends in the elements of a text ends as they do. -/
theorem startsWithDot_reverse {s : Text} (h : itemsOf s ≠ []) (items : List LocalItem) :
    startsWithDot (items ++ itemsOf s).reverse = startsWithDot (itemsOf s).reverse := by
  rw [List.reverse_append]
  rcases e : (itemsOf s).reverse with _ | ⟨item, others⟩
  · exact absurd (List.reverse_eq_nil_iff.1 e) h
  · have : item ∈ itemsOf s := List.mem_reverse.1 (e ▸ List.mem_cons_self)
    rw [List.cons_append, startsWithDot_cons this, startsWithDot_cons this]

/-- The elements are proper exactly if the dots are. -/
theorem isProper_itemsOf {s : Text} (h : s ≠ []) :
    (old (itemsOf s)).isProper = Lexeme.isDotted s := by
  -- by induction on the length, as a run and the dot after it are left out at once
  induction n : s.length using Nat.strongRecOn generalizing s with
  | ind n ih =>
    obtain ⟨c, t, rfl⟩ := List.exists_cons_of_ne_nil h
    by_cases hc : c = CodePoint.ofChar '.'
    · rw [hc, isDotted_dot, itemsOf_dot]
      simp [isProper, startsWithDot]
    obtain ⟨run, t', e, hrun, ends, shorter⟩ := run_cases hc t
    rw [e, itemsOf_append hrun ends]
    rcases t' with _ | ⟨d, t'⟩
    · rw [List.append_nil, isDotted_run hrun]
      rfl
    rw [ends d t' rfl, itemsOf_dot, isDotted_run_append hrun]
    rcases t' with _ | ⟨d', t'⟩
    · rfl
    -- the first run and its dot leave the others as proper as they are
    rw [List.length_cons] at n
    rw [List.length_cons] at shorter
    rw [← ih _ (by omega) (List.cons_ne_nil d' t') rfl]
    by_cases hd : d' = CodePoint.ofChar '.'
    · rw [hd, itemsOf_dot]
      simp [isProper, alternates, startsWithDot, ofAtom]
    · obtain ⟨run', rest, e', hrun', ends', -⟩ := run_cases hd t'
      have items : itemsOf (d' :: t') = ofAtom run' :: itemsOf rest := by
        rw [e', itemsOf_append hrun' ends']
      have last := startsWithDot_reverse (s := d' :: t') (by rw [items]; simp) [ofAtom run, .dot]
      rw [items] at last ⊢
      simp only [List.cons_append, List.nil_append] at last
      simp only [isProper, last]
      simp [alternates, startsWithDot, ofAtom]

theorem endsPhrase_of_endsDottedAtom {c : CodePoint} (h : Lexeme.endsDottedAtom c = false) :
    Lexeme.endsPhrase c = false := by
  unfold Lexeme.endsDottedAtom Lexeme.endsAtom at h
  unfold Lexeme.endsPhrase
  cases special : Lexeme.isSpecial c with
  | false => rfl
  | true =>
    rw [special, Bool.true_or, Bool.true_and] at h
    rw [h]
    rfl

theorem endsAtom_of_endsDottedAtom {c : CodePoint} (h : Lexeme.endsDottedAtom c = false)
    (hc : c ≠ CodePoint.ofChar '.') : Lexeme.endsAtom c = false := by
  have : (c.val == 0x2E) = false := CodePoint.val_beq_eq_false hc
  simpa [Lexeme.endsDottedAtom, bne, this] using h

/-- Words that stand before a dot or before the sign that ends a local part have no filler. -/
theorem closed_of_mark {d : CodePoint} (hd : d = CodePoint.ofChar '.' ∨ d = CodePoint.ofChar '@' ∨
    d = CodePoint.ofChar '>') (core : WordCore) (rest : Text) :
    Word.closed core (d :: rest) = (⟨none, core, none⟩, d :: rest) := by
  have start : Filler.canStart d = false := by rcases hd with rfl | rfl | rfl <;> decide
  rw [Word.closed, Filler.skip_of_not_canStart start]

/-- What stands in atoms and dots is none of what ends them. -/
theorem val_beq_of_endsDottedAtom {c : CodePoint} (h : Lexeme.endsDottedAtom c = false)
    (d : CodePoint) (hd : Lexeme.endsDottedAtom d = true) : (c.val == d.val) = false := by
  refine CodePoint.val_beq_eq_false fun e => ?_
  rw [e, hd] at h
  cases h

/-- A run is one word, before a dot and before the sign that ends a local part. -/
theorem read?_run {run : Text} (hrun : IsRun run)
    (h : ∀ c ∈ run, Lexeme.endsDottedAtom c = false) (opens : run.OpensNoWord) {d : CodePoint}
    (hd : d = CodePoint.ofChar '.' ∨ d = CodePoint.ofChar '@') (rest : Text) :
    Word.read? (run ++ d :: rest) = some (⟨none, .atom run, none⟩, d :: rest) := by
  have all : ∀ c ∈ run, Lexeme.endsAtom c = false := fun c hc =>
    endsAtom_of_endsDottedAtom (h c hc) (hrun.2 c hc)
  have ends : Lexeme.endsAtom d = true := by rcases hd with rfl | rfl <;> decide
  rw [Word.read?_atom hrun.1 all opens ends, closed_of_mark (hd.imp_right .inl)]

/-- The first run of a local part that begins with none of its dots is one word. -/
theorem exists_first_run {c : CodePoint} {t : Text} (hc : c ≠ CodePoint.ofChar '.')
    (h : ∀ d ∈ c :: t, Lexeme.endsDottedAtom d = false) (opens : Text.OpensNoWord (c :: t))
    (rest : Text) :
    ∃ run t', c :: t = run ++ t' ∧ IsRun run ∧ EndsRun t' ∧ t'.length ≤ t.length ∧
      ((∀ d ∈ t', Lexeme.endsDottedAtom d = false) ∧ Text.OpensNoWord t') ∧
      Word.read? (c :: (t ++ CodePoint.ofChar '@' :: rest)) =
        some (⟨none, .atom run, none⟩, t' ++ CodePoint.ofChar '@' :: rest) := by
  obtain ⟨run, t', e, hrun, ends, shorter⟩ := run_cases hc t
  -- what is behind the run begins with a dot or the sign
  obtain ⟨d, rest', hd, tail⟩ : ∃ d rest', (d = CodePoint.ofChar '.' ∨ d = CodePoint.ofChar '@') ∧
      t' ++ CodePoint.ofChar '@' :: rest = d :: rest' := by
    cases t' with
    | nil => exact ⟨_, _, .inr rfl, rfl⟩
    | cons d t' => exact ⟨_, _, .inl (ends d t' rfl), rfl⟩
  rw [e, List.forall_mem_append] at h
  rw [e] at opens
  refine ⟨run, t', e, hrun, ends, shorter, ⟨h.2, opens.of_append⟩, ?_⟩
  rw [← List.cons_append, e, List.append_assoc, tail, read?_run hrun h.1 opens.left hd]

/-- The elements of the old form are those that dots make. -/
theorem readItems_append {s : Text} (h : ∀ c ∈ s, Lexeme.endsDottedAtom c = false)
    (opens : s.OpensNoWord) {fuel : Nat} (enough : s.length ≤ fuel) (rest : Text) :
    readItems fuel (s ++ CodePoint.ofChar '@' :: rest) =
      (itemsOf s, CodePoint.ofChar '@' :: rest) := by
  induction fuel generalizing s with
  | zero =>
    rw [List.length_eq_zero_iff.1 (Nat.le_zero.1 enough)]
    rfl
  | succ fuel ih =>
    cases s with
    | nil =>
      rw [List.nil_append, readItems, if_pos (by decide)]
      rfl
    | cons c t =>
      rw [List.length_cons] at enough
      have inAtom := h c List.mem_cons_self
      have slash : (c.val == 0x5C) = false :=
        val_beq_of_endsDottedAtom inAtom (CodePoint.ofChar '\\') (by decide)
      have goesOn : ¬ (c.val != 0x5C && Lexeme.endsPhrase c) = true := by
        rw [endsPhrase_of_endsDottedAtom inAtom, Bool.and_false]
        simp
      by_cases hc : c = CodePoint.ofChar '.'
      · rw [List.cons_append, readItems, if_neg goesOn, hc, itemsOf_dot]
        simp only
        rw [if_pos (by decide), ih (fun d hd => h d (List.mem_cons_of_mem c hd))
          (Text.opensNoWord_cons.1 opens).2 (by omega)]
      · -- a whole run is one element
        obtain ⟨run, t', e, hrun, ends, shorter, ⟨h', opens'⟩, word⟩ :=
          exists_first_run hc h opens rest
        have dot : (c.val == 0x2E) = false := CodePoint.val_beq_eq_false hc
        rw [List.cons_append, readItems, if_neg goesOn]
        simp only [dot, slash, Bool.false_eq_true, if_false, word, ih h' opens' (by omega)]
        rw [e, itemsOf_append hrun ends]
        rfl

/-! ### Local parts -/

/-- A local part as it is written before a domain. -/
def written (s : Text) : Text := if s.any Lexeme.endsDottedAtom then s.inQuotes else s

/-- The local part is written so that it can be read: between quotation marks, or as atoms with
single dots between them. -/
def IsLegible (s : Text) : Prop := s.any Lexeme.endsDottedAtom = true ∨ Lexeme.isDotted s = true

instance (s : Text) : Decidable (IsLegible s) := inferInstanceAs (Decidable (_ ∨ _))

/-- The old form of a local part, with what follows it. -/
def readOld (t : Text) : Except Halt (LocalPart × Text) := do
  let _ ← startsWithDot (readItems t.length t).1
  return (.old (readItems t.length t).1, (readItems t.length t).2)

theorem read_cons {c : CodePoint} (start : Filler.canStart c = false) (t : Text) :
    read (c :: t) = match (readDotted? (c :: t)).or (Word.read? (c :: t)) with
      | some (word, rest) =>
        if goesOn rest then readOld (word.written ++ rest)
        else .ok (.plain { word with before := none }, rest)
      | none =>
        if c.val != 0x5C && Lexeme.endsPhrase c then .error .mismatch else readOld (c :: t) := by
  rw [read]
  simp only [Filler.skip_of_not_canStart start]
  rfl

theorem itemsOf_ne_nil {s : Text} (h : s ≠ []) : itemsOf s ≠ [] := by
  obtain ⟨c, t, rfl⟩ := List.exists_cons_of_ne_nil h
  rw [itemsOf]
  split
  · exact List.cons_ne_nil _ _
  · split <;> exact List.cons_ne_nil _ _

theorem readOld_append {s : Text} (nonempty : s ≠ [])
    (h : ∀ c ∈ s, Lexeme.endsDottedAtom c = false) (opens : s.OpensNoWord) (rest : Text) :
    readOld (s ++ CodePoint.ofChar '@' :: rest) =
      .ok (.old (itemsOf s), CodePoint.ofChar '@' :: rest) := by
  have enough : s.length ≤ (s ++ CodePoint.ofChar '@' :: rest).length := by simp
  have items := readItems_append h opens enough rest
  unfold readOld
  rw [items]
  rcases e : itemsOf s with _ | ⟨item, others⟩
  · exact absurd e (itemsOf_ne_nil nonempty)
  · simp only [startsWithDot_cons (s := s) (e ▸ List.mem_cons_self)]
    rfl

/-- No filler begins with what stands in an atom. -/
theorem canStart_of_endsDottedAtom {c : CodePoint} (h : Lexeme.endsDottedAtom c = false) :
    Filler.canStart c = false := by
  refine Bool.eq_false_iff.2 fun start => ?_
  rcases Bool.or_eq_true_iff.1 start with space | opening
  · rw [Lexeme.endsDottedAtom_of_isSpace space] at h
    cases h
  · obtain rfl : c = CodePoint.ofChar '(' := CodePoint.ext (beq_iff_eq.1 opening)
    exact absurd h (by decide)

theorem read_quoted {s : Text} (opens : s.OpensNoWord) (rest : Text) :
    ∃ l, read (s.inQuotes ++ CodePoint.ofChar '@' :: rest) = .ok (l, CodePoint.ofChar '@' :: rest) ∧
      l.defects = [] ∧ l.text = .ok s := by
  obtain ⟨q, word, content, defects, pieces⟩ :=
    Word.read?_inQuotes opens (CodePoint.ofChar '@' :: rest)
  have dotted := readDotted?_append (s := []) (by simp) rfl
    (t := CodePoint.ofChar '"' :: (s.escaped ++ [CodePoint.ofChar '"'] ++
      CodePoint.ofChar '@' :: rest)) (Lexeme.endsBefore_cons.2 (by decide))
  rw [List.nil_append, if_neg (by decide)] at dotted
  rw [closed_of_mark (.inr (.inl rfl))] at word
  rw [Text.inQuotes_eq, List.cons_append] at word ⊢
  rw [read_cons (by decide), dotted, word]
  refine ⟨.plain ⟨none, .quoted q, none⟩, rfl, ?_, ?_⟩
  · simp [LocalPart.defects, isProper, Word.defects, WordCore.defects, fillerDefects,
      commentDefects, defects]
  · simp [text, pieces, content]

theorem read_dotted {s : Text} (h : ∀ c ∈ s, Lexeme.endsDottedAtom c = false)
    (opens : s.OpensNoWord) (dotted : Lexeme.isDotted s = true) (rest : Text) :
    read (s ++ CodePoint.ofChar '@' :: rest) =
      .ok (.plain ⟨none, .atom s, none⟩, CodePoint.ofChar '@' :: rest) := by
  have word := readDotted?_append h opens (t := CodePoint.ofChar '@' :: rest)
    (Lexeme.endsBefore_cons.2 (by decide))
  rw [if_pos dotted, closed_of_mark (.inr (.inl rfl))] at word
  cases s with
  | nil => cases dotted
  | cons c s =>
    rw [List.cons_append] at word ⊢
    rw [read_cons (canStart_of_endsDottedAtom (h c List.mem_cons_self)), word]
    rfl

/-- A gap before a word goes to it. -/
theorem read_gap {g t rest : Text} {w : Word} (gap : g.IsGap) (stops : Filler.Stops t)
    (e : read t = .ok (.plain w, rest)) :
    read (g ++ t) = .ok (.plain { w with before := Filler.ofGap g }, rest) := by
  unfold read at e ⊢
  simp only [Filler.skip_gap gap stops, Filler.skip_of_stops stops] at e ⊢
  split at e
  · cases e
  next filled =>
    rw [if_neg (by simpa using fun _ => filled), if_neg filled]
    split at e
    · split at e
      · obtain ⟨_, -, e⟩ := bind_eq_ok_iff.1 e
        cases e
      · next ends =>
        cases e
        rw [if_neg ends]
    · split at e
      · cases e
      · obtain ⟨_, -, e⟩ := bind_eq_ok_iff.1 e
        cases e

/-- Dots in the wrong places make it the old form, in which they are no better. -/
theorem read_undotted {s : Text} (nonempty : s ≠ [])
    (h : ∀ c ∈ s, Lexeme.endsDottedAtom c = false) (opens : s.OpensNoWord)
    (undotted : Lexeme.isDotted s = false) (rest : Text) :
    read (s ++ CodePoint.ofChar '@' :: rest) =
      .ok (.old (itemsOf s), CodePoint.ofChar '@' :: rest) := by
  have dotted := readDotted?_append h opens (t := CodePoint.ofChar '@' :: rest)
    (Lexeme.endsBefore_cons.2 (by decide))
  rw [if_neg (by simp [undotted])] at dotted
  have old := readOld_append nonempty h opens rest
  obtain ⟨c, t, rfl⟩ := List.exists_cons_of_ne_nil nonempty
  have start := canStart_of_endsDottedAtom (h c List.mem_cons_self)
  by_cases hc : c = CodePoint.ofChar '.'
  · -- no word begins with a dot, but the old form may
    have none : Word.read? (c :: (t ++ CodePoint.ofChar '@' :: rest)) = none := by
      rw [hc]
      exact Word.read?_eq_none (by decide) (by decide) (by decide) _
    rw [List.cons_append] at dotted old ⊢
    rw [read_cons start, dotted, none]
    simp only [Option.or_none]
    rw [if_neg (by rw [hc]; decide), old]
  · -- the first run is read as the whole local part, then put back as a dot follows, and read once
    -- more in the old form
    obtain ⟨run, t', e, hrun, ends, -⟩ := run_cases hc t
    obtain ⟨t'', rfl⟩ : ∃ t'', t' = CodePoint.ofChar '.' :: t'' := by
      cases t' with
      | nil =>
        rw [e, List.append_nil, isDotted_run hrun] at undotted
        cases undotted
      | cons d t'' => exact ⟨t'', by rw [ends d t'' rfl]⟩
    rw [e, List.forall_mem_append] at h
    have word :=
      read?_run hrun h.1 (e ▸ opens).left (.inl rfl) (t'' ++ CodePoint.ofChar '@' :: rest)
    have whole : run ++ CodePoint.ofChar '.' :: (t'' ++ CodePoint.ofChar '@' :: rest) =
        c :: (t ++ CodePoint.ofChar '@' :: rest) := by
      rw [← List.cons_append, ← List.cons_append, e, List.append_assoc]
    rw [whole] at word
    rw [List.cons_append] at dotted old ⊢
    rw [read_cons start, dotted, word]
    simp only [Option.none_or]
    rw [if_pos (by rfl), Word.written]
    simp only [fillerWritten, WordCore.written, Option.map_none, Option.getD_none, List.nil_append,
      List.append_nil]
    rw [whole, old]

/-- **A written local part is read without a defect exactly if it is proper**, and then it is the
same. -/
theorem read_written {s : Text} (nonempty : s ≠ []) (opens : s.OpensNoWord) (rest : Text) :
    ∃ l, read (written s ++ CodePoint.ofChar '@' :: rest) = .ok (l, CodePoint.ofChar '@' :: rest) ∧
      (l.defects = [] ↔ IsLegible s) ∧ (IsLegible s → l.text = .ok s) := by
  unfold written IsLegible
  split
  · next quoted =>
    obtain ⟨l, e, defects, text⟩ := read_quoted opens rest
    exact ⟨l, e, ⟨fun _ => .inl quoted, fun _ => defects⟩, fun _ => text⟩
  · next raw =>
    have h : ∀ c ∈ s, Lexeme.endsDottedAtom c = false := by simpa using raw
    cases dotted : Lexeme.isDotted s with
    | true =>
      refine ⟨_, read_dotted h opens dotted rest, ⟨fun _ => .inr rfl, fun _ => rfl⟩, fun _ => rfl⟩
    | false =>
      refine ⟨_, read_undotted nonempty h opens dotted rest, ⟨fun none => ?_, fun e => ?_⟩,
        fun e => ?_⟩
      · rw [LocalPart.defects, isProper_itemsOf nonempty, dotted] at none
        cases none
      · exact (e.elim raw (by simp)).elim
      · exact (e.elim raw (by simp)).elim

end LocalPart

/-! ### Domains -/

namespace Domain

/-- A domain that is written so that it can be read: atoms with single dots between them, or a
literal without brackets and backslashes. -/
inductive IsLegible : Text → Prop where
  | dotted {d : Text} (dots : Lexeme.isDotted d = true)
      (plain : ∀ c ∈ d, Lexeme.endsDottedAtom c = false ∧ c.isBlank = false)
      (opens : d.OpensNoWord) : IsLegible d
  | literal {d : Text} (plain : ∀ c ∈ d, c.isBlank = false ∧ c ≠ CodePoint.ofChar '[' ∧
      c ≠ CodePoint.ofChar ']' ∧ c ≠ CodePoint.ofChar '\\') :
      IsLegible (CodePoint.ofChar '[' :: (d ++ [CodePoint.ofChar ']']))

/-- A domain of atoms is read with the filler that follows, up to what ends it. -/
theorem read_dotted {d tail rest : Text} {after : Option Filler}
    (dots : Lexeme.isDotted d = true) (plain : ∀ c ∈ d, Lexeme.endsDottedAtom c = false)
    (opens : d.OpensNoWord) (ends : Lexeme.EndsBefore Lexeme.endsDottedAtom tail)
    (skips : Filler.skip tail = (after, rest))
    (stops : ∀ c t, rest = c :: t → c ≠ CodePoint.ofChar '@' ∧ c ≠ CodePoint.ofChar '.') :
    read (d ++ tail) = .ok (⟨.text d :: ofFiller after⟩, rest) := by
  have word := LocalPart.readDotted?_append plain opens ends
  rw [if_pos dots, Word.closed, skips] at word
  have sign : Lexeme.headIs (·.val == 0x40) rest = false := by
    cases rest with
    | nil => rfl
    | cons c t => exact CodePoint.val_beq_eq_false (stops c t rfl).1
  have more : readMore rest.length rest = .ok ([], rest) := by
    cases rest with
    | nil => rfl
    | cons c t =>
      have dot : (c.val == 0x2E) = false := CodePoint.val_beq_eq_false (stops c t rfl).2
      rw [List.length_cons, readMore]
      simp only [dot, Bool.false_eq_true, if_false]
  cases d with
  | nil => cases dots
  | cons c d =>
    have hc := plain c List.mem_cons_self
    have bracket : (c.val == 0x5B) = false :=
      LocalPart.val_beq_of_endsDottedAtom hc (CodePoint.ofChar '[') (by decide)
    rw [List.cons_append] at word ⊢
    rw [read]
    simp only [Filler.skip_of_not_canStart (LocalPart.canStart_of_endsDottedAtom hc)]
    rw [bracket, word]
    simp only [List.isEmpty_cons, Bool.false_eq_true, if_false, Option.some_or, sign, bind,
      Except.bind, more]
    simp [ofFiller, ofWord, pure, Except.pure]

theorem scanLiteral_append {d : Text} (plain : ∀ c ∈ d, c.isBlank = false ∧
    c ≠ CodePoint.ofChar '[' ∧ c ≠ CodePoint.ofChar ']' ∧ c ≠ CodePoint.ofChar '\\')
    (rest : Text) :
    scanLiteral false (d ++ CodePoint.ofChar ']' :: rest) = (d, CodePoint.ofChar ']' :: rest) := by
  induction d with
  | nil => rfl
  | cons c d ih =>
    rw [List.forall_mem_cons] at plain
    obtain ⟨⟨blank, opening, closing, slash⟩, others⟩ := plain
    have space : ¬ Lexeme.isSpace c = true := fun h => by
      rw [Lexeme.isBlank_of_isSpace h] at blank
      cases blank
    have opening : (c.val == 0x5B) = false := CodePoint.val_beq_eq_false opening
    have closing : (c.val == 0x5D) = false := CodePoint.val_beq_eq_false closing
    have slash : (c.val == 0x5C) = false := CodePoint.val_beq_eq_false slash
    rw [List.cons_append, scanLiteral, if_neg space, opening, closing, slash, ih others]
    rfl

theorem read_literal {d : Text} (plain : ∀ c ∈ d, c.isBlank = false ∧
    c ≠ CodePoint.ofChar '[' ∧ c ≠ CodePoint.ofChar ']' ∧ c ≠ CodePoint.ofChar '\\')
    (rest : Text) :
    read (CodePoint.ofChar '[' :: (d ++ [CodePoint.ofChar ']']) ++ CodePoint.ofChar '>' :: rest) =
      .ok (⟨[.text "[", .text d, .text "]"]⟩, CodePoint.ofChar '>' :: rest) := by
  have scan := scanLiteral_append plain (CodePoint.ofChar '>' :: rest)
  have unblank : skipBlank (d ++ CodePoint.ofChar ']' :: CodePoint.ofChar '>' :: rest) =
      ([], d ++ CodePoint.ofChar ']' :: CodePoint.ofChar '>' :: rest) := by
    refine if_neg ?_
    cases d with
    | nil => rw [List.nil_append, Lexeme.headIs]; decide
    | cons c d =>
      rw [List.cons_append, Lexeme.headIs]
      intro space
      have := (plain c List.mem_cons_self).1
      rw [Lexeme.isBlank_of_isSpace space] at this
      cases this
  have whole : CodePoint.ofChar '[' :: (d ++ [CodePoint.ofChar ']']) ++
      CodePoint.ofChar '>' :: rest = CodePoint.ofChar '[' ::
        (d ++ CodePoint.ofChar ']' :: CodePoint.ofChar '>' :: rest) := by
    simp
  rw [whole, read]
  simp only [Filler.skip_of_not_canStart (c := CodePoint.ofChar '[') (by decide)]
  have nonempty : (d ++ CodePoint.ofChar ']' :: CodePoint.ofChar '>' :: rest).isEmpty = false := by
    cases d <;> rfl
  have closing : skipBlank (CodePoint.ofChar ']' :: CodePoint.ofChar '>' :: rest) =
      ([], CodePoint.ofChar ']' :: CodePoint.ofChar '>' :: rest) := if_neg (by
    rw [Lexeme.headIs]
    decide)
  rw [if_neg (by simp), if_pos (by decide), readLiteral, nonempty]
  simp only [unblank, nonempty, scan, closing, Filler.skip_of_not_canStart
    (c := CodePoint.ofChar '>') (by decide), Bool.false_eq_true, if_false]
  rfl

/-- A plain domain is read as it is. -/
theorem read_legible {d : Text} (h : IsLegible d) (rest : Text) :
    ∃ domain,
      read (d ++ CodePoint.ofChar '>' :: rest) = .ok (domain, CodePoint.ofChar '>' :: rest) ∧
      domain.defects = [] ∧ domain.text = d := by
  cases h with
  | dotted dots plain opens =>
    refine ⟨_, read_dotted dots (fun c hc => (plain c hc).1) opens
      (Lexeme.endsBefore_cons.2 (by decide))
      (Filler.skip_of_not_canStart (c := CodePoint.ofChar '>') (by decide))
      (fun c t e => by cases e; decide), rfl, ?_⟩
    simp only [ofFiller, Option.map_none, Option.toList_none, text, List.flatMap_cons,
      List.flatMap_nil, itemValue, List.append_nil]
    exact List.filter_eq_self.2 fun c hc => by simp [(plain c hc).2]
  | literal plain =>
    refine ⟨_, read_literal plain rest, rfl, ?_⟩
    have brackets : ∀ c ∈ ([CodePoint.ofChar '[', CodePoint.ofChar ']'] : Text),
        c.isBlank = false := by decide
    refine List.filter_eq_self.2 fun c hc => ?_
    replace hc : c ∈ CodePoint.ofChar '[' :: (_ ++ [CodePoint.ofChar ']']) := hc
    simp only [List.mem_cons, List.mem_append, List.not_mem_nil, or_false] at hc
    rcases hc with rfl | hc | rfl
    · rw [brackets _ (by simp)]
      rfl
    · rw [(plain c hc).1]
      rfl
    · rw [brackets _ (by simp)]
      rfl

end Domain

/-- An address with a plain domain is read up to the bracket after it, and without a defect exactly
if its local part is proper. -/
theorem AddrSpec.read_written {s d : Text} (nonempty : s ≠ []) (opens : s.OpensNoWord)
    (plain : Domain.IsLegible d) (rest : Text) :
    ∃ a, read (LocalPart.written s ++ CodePoint.ofChar '@' :: (d ++ CodePoint.ofChar '>' :: rest)) =
        .ok (a, CodePoint.ofChar '>' :: rest) ∧
      (a.defects = [] ↔ LocalPart.IsLegible s) ∧
      (LocalPart.IsLegible s → a.localPart.text = .ok s) ∧ a.domain.map Domain.text = some d := by
  obtain ⟨l, hl, defects, text⟩ :=
    LocalPart.read_written nonempty opens (d ++ CodePoint.ofChar '>' :: rest)
  obtain ⟨domain, hd, none, same⟩ := Domain.read_legible plain rest
  refine ⟨⟨l, some domain⟩, ?_, ?_, text, congrArg some same⟩
  · rw [read, hl]
    simp only [bind, Except.bind, hd]
    rfl
  · simpa [AddrSpec.defects, none] using defects

end Mailroom.Address
