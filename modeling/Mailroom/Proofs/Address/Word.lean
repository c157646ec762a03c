import Mailroom.Address.Word
import Mailroom.Proofs.Address.EncodedWord

/-!
# Reading words back

* `Text.OpensNoWord`: nothing in a text looks like the beginning of an encoded word;
* `Text.IsGap`: blanks that are passed over as one filler, `Filler.skip_gap`;
* `Address.QuotedString.readOpened_escaped`: a text between quotation marks is read as it is;
* `Address.Word.read?_inQuotes`, `Address.Word.read?_encode`, `Address.Word.read?_atom`: the same
  for the three kinds of words;
* `Address.Phrase.read_word`: a display name that is one word.
-/

namespace Mailroom

namespace Text

/-- Nothing in the text looks like the beginning of an encoded word. -/
def OpensNoWord (t : Text) : Prop := cutPair? '=' '?' t = none

instance (t : Text) : Decidable t.OpensNoWord := inferInstanceAs (Decidable (_ = _))

theorem opensNoWord_cons {c : CodePoint} {t : Text} :
    OpensNoWord (c :: t) ↔
      ¬ (c = CodePoint.ofChar '=' ∧ t.head? = some (CodePoint.ofChar '?')) ∧ t.OpensNoWord := by
  unfold OpensNoWord
  rw [cutPair?]
  split
  · next h =>
    have begins : c = CodePoint.ofChar '=' ∧ t.head? = some (CodePoint.ofChar '?') := by
      simpa using h
    exact ⟨fun e => (by cases e), fun e => absurd begins e.1⟩
  · next h =>
    rw [Option.map_eq_none_iff]
    exact ⟨fun e => ⟨by simpa using h, e⟩, fun e => e.2⟩

theorem OpensNoWord.of_append {s t : Text} (h : OpensNoWord (s ++ t)) : t.OpensNoWord := by
  induction s with
  | nil => exact h
  | cons c s ih => exact ih (opensNoWord_cons.1 h).2

theorem OpensNoWord.left {s t : Text} (h : OpensNoWord (s ++ t)) : s.OpensNoWord := by
  induction s with
  | nil => rfl
  | cons c s ih =>
    obtain ⟨here, later⟩ := opensNoWord_cons.1 h
    refine opensNoWord_cons.2 ⟨fun ⟨hc, hs⟩ => here ⟨hc, ?_⟩, ih later⟩
    show (s ++ t).head? = _
    rw [List.head?_append, hs]
    rfl

theorem OpensNoWord.dropWhile {t : Text} (h : t.OpensNoWord) (p : CodePoint → Bool) :
    OpensNoWord (t.dropWhile p) := by
  refine OpensNoWord.of_append (s := t.takeWhile p) ?_
  rw [List.takeWhile_append_dropWhile]
  exact h

/-- The text between quotation marks, each mark and backslash of it after a backslash. -/
def escaped (t : Text) : Text :=
  t.flatMap fun c => if c = CodePoint.ofChar '\\' || c = CodePoint.ofChar '"' then
    [CodePoint.ofChar '\\', c] else [c]

theorem inQuotes_eq (t : Text) :
    t.inQuotes = CodePoint.ofChar '"' :: (t.escaped ++ [CodePoint.ofChar '"']) := rfl

theorem escaped_append (s t : Text) : escaped (s ++ t) = s.escaped ++ t.escaped :=
  List.flatMap_append

end Text

namespace Lexeme

theorem eq_of_isSpace {c : CodePoint} (h : isSpace c = true) :
    c = CodePoint.ofChar ' ' ∨ c = CodePoint.ofChar '\t' := by
  simp only [isSpace, Bool.or_eq_true, beq_iff_eq] at h
  exact h.imp CodePoint.ext CodePoint.ext

theorem isBlank_of_isSpace {c : CodePoint} (h : isSpace c = true) : c.isBlank = true := by
  rcases eq_of_isSpace h with rfl | rfl <;> decide

theorem endsDottedAtom_of_isSpace {c : CodePoint} (h : isSpace c = true) :
    endsDottedAtom c = true := by
  rcases eq_of_isSpace h with rfl | rfl <;> decide

/-- The signs that open an encoded word may stand in an atom. -/
theorem not_sign_of_endsAtom {c : CodePoint} (h : endsAtom c = true) :
    c ≠ CodePoint.ofChar '=' ∧ c ≠ CodePoint.ofChar '?' := by
  constructor
  · intro e
    rw [e] at h
    exact absurd h (by decide)
  · intro e
    rw [e] at h
    exact absurd h (by decide)

/-- Nothing follows, or what follows ends what has been read. -/
def EndsBefore (p : CodePoint → Bool) (tail : Text) : Prop := ∀ c t, tail = c :: t → p c = true

theorem endsBefore_cons {p : CodePoint → Bool} {c : CodePoint} {t : Text} :
    EndsBefore p (c :: t) ↔ p c = true :=
  ⟨fun h => h c t rfl, fun h _ _ e => (List.cons.inj e).1 ▸ h⟩

/-- What is read up to where it ends. -/
theorem span_append {p : CodePoint → Bool} {s tail : Text} (h : ∀ c ∈ s, p c = false)
    (ends : EndsBefore p tail) :
    (s ++ tail).takeWhile (fun c => !p c) = s ∧ (s ++ tail).dropWhile (fun c => !p c) = tail := by
  have all : ∀ c ∈ s, (fun c => !p c) c = true := fun c hc => by simp [h c hc]
  rw [List.takeWhile_append_of_pos all, List.dropWhile_append_of_pos all]
  cases tail with
  | nil => simp
  | cons c t => simp [ends c t rfl]

/-- What is read up to a code point that ends it. -/
theorem span_of_ends {p : CodePoint → Bool} {s : Text} (h : ∀ c ∈ s, p c = false) {d : CodePoint}
    (hd : p d = true) (rest : Text) :
    (s ++ d :: rest).takeWhile (fun c => !p c) = s ∧
      (s ++ d :: rest).dropWhile (fun c => !p c) = d :: rest :=
  span_append h (endsBefore_cons.2 hd)

end Lexeme

/-- What does not look like an encoded word is none. -/
theorem EncodedWord.read?_append {t tail : Text} (h : t.OpensNoWord)
    (signs : ∀ c u, tail = c :: u → c ≠ CodePoint.ofChar '=' ∧ c ≠ CodePoint.ofChar '?') :
    read? (t ++ tail) = none := by
  unfold read?
  split
  · next a b t' e =>
    refine if_neg fun looks => ?_
    simp only [Bool.and_eq_true, beq_iff_eq] at looks
    have ha : a = CodePoint.ofChar '=' := CodePoint.ext looks.1
    have hb : b = CodePoint.ofChar '?' := CodePoint.ext looks.2
    rcases t with _ | ⟨a', _ | ⟨b', t⟩⟩
    · exact (signs a _ e).1 ha
    · exact (signs b _ (List.cons.inj e).2).2 hb
    · refine (Text.opensNoWord_cons.1 h).1 ⟨(List.cons.inj e).1.trans ha, ?_⟩
      rw [List.head?_cons, (List.cons.inj (List.cons.inj e).2).1, hb]
  · rfl

theorem EncodedWord.read?_eq_none {t : Text} (h : t.OpensNoWord) {c : CodePoint}
    (hc : c ≠ CodePoint.ofChar '=' ∧ c ≠ CodePoint.ofChar '?') (rest : Text) :
    read? (t ++ c :: rest) = none :=
  read?_append h fun _ _ e => (List.cons.inj e).1 ▸ hc

/-! ### Gaps -/

/-- Blanks that are passed over between two elements: the first, if there is any, is a space or a
tab. -/
structure Text.IsGap (g : Text) : Prop where
  blank : g.isBlank = true
  space : ∀ c, g.head? = some c → Lexeme.isSpace c = true

theorem Text.isGap_nil : IsGap [] := ⟨rfl, nofun⟩

theorem Text.IsGap.append {g g' : Text} (h : g.IsGap) (h' : g'.IsGap) : (g ++ g').IsGap where
  blank := by
    have both := Bool.and_eq_true_iff.2 ⟨h.blank, h'.blank⟩
    rwa [isBlank, isBlank, ← List.all_append] at both
  space := fun c hc => by
    cases g with
    | nil => exact h'.space c hc
    | cons d g => exact h.space c hc

namespace Filler

/-- The filler that a gap is read as. -/
def ofGap (g : Text) : Option Filler := if g.isEmpty then none else some ⟨g, false⟩

/-- No filler goes on with what follows. -/
def Stops (rest : Text) : Prop := ∀ c t, rest = c :: t → c.isBlank = false ∧ canStart c = false

theorem stops_cons {c : CodePoint} {t : Text} :
    Stops (c :: t) ↔ c.isBlank = false ∧ canStart c = false :=
  ⟨fun h => h c t rfl, fun h _ _ e => (List.cons.inj e).1 ▸ h⟩

theorem skip_of_stops {rest : Text} (stops : Stops rest) : skip rest = (none, rest) := by
  cases rest with
  | nil => rfl
  | cons c t => exact skip_of_not_canStart (stops c t rfl).2

theorem stepOutside_of_not_canStart {c : CodePoint} (h : canStart c = false) :
    stepOutside c = none := by
  obtain ⟨space, opening⟩ := Bool.or_eq_false_iff.1 h
  rw [stepOutside, if_neg (by simp [space]), if_neg (by simp [opening])]

/-- Inside a filler, every blank is passed over. -/
theorem scan_blank {g rest : Text} (blank : g.isBlank = true) (stops : Stops rest) :
    scan .blank (g ++ rest) = (⟨g, false⟩, rest) := by
  induction g with
  | nil =>
    cases rest with
    | nil => rfl
    | cons c t =>
      obtain ⟨unblank, start⟩ := stops c t rfl
      rw [List.nil_append, scan, Place.step, if_neg (by simp [unblank]),
        stepOutside_of_not_canStart start]
  | cons c g ih =>
    rw [Text.isBlank, List.all_cons, Bool.and_eq_true] at blank
    rw [List.cons_append, scan, Place.step, if_pos blank.1]
    simp only [ih blank.2]
    rfl

theorem scan_gap {g rest : Text} (gap : g.IsGap) (some : g ≠ []) (stops : Stops rest) :
    scan .outside (g ++ rest) = (⟨g, false⟩, rest) := by
  obtain ⟨c, g, rfl⟩ := List.exists_cons_of_ne_nil some
  have blank := gap.blank
  rw [Text.isBlank, List.all_cons, Bool.and_eq_true] at blank
  rw [List.cons_append, scan, Place.step, stepOutside, if_pos (gap.space c rfl)]
  simp only [scan_blank blank.2 stops]
  rfl

/-- **A gap is read as one filler.** -/
theorem skip_gap {g rest : Text} (gap : g.IsGap) (stops : Stops rest) :
    skip (g ++ rest) = (ofGap g, rest) := by
  by_cases some : g = []
  · rw [some]
    exact skip_of_stops stops
  · have start : Lexeme.headIs canStart (g ++ rest) = true := by
      obtain ⟨c, g, rfl⟩ := List.exists_cons_of_ne_nil some
      rw [List.cons_append, Lexeme.headIs, canStart, gap.space c rfl, Bool.true_or]
    rw [skip, take?, if_pos start, scan_gap gap some stops, ofGap, if_neg (by simpa using some)]

end Filler

namespace Address

theorem fillerDefects_ofGap (g : Text) : fillerDefects (Filler.ofGap g) = [] := by
  unfold Filler.ofGap
  split <;> rfl

theorem fillerValue_ofGap {g : Text} (h : g ≠ []) : fillerValue (Filler.ofGap g) = " " := by
  rw [Filler.ofGap, if_neg (by simpa using h)]
  rfl

/-! ### Quotations -/

namespace QuotedString

/-- What is done with a code point in a quotation. -/
theorem escaped_cons (c : CodePoint) (t : Text) :
    ((c = CodePoint.ofChar '\\' ∨ c = CodePoint.ofChar '"') ∧
        Text.escaped (c :: t) = CodePoint.ofChar '\\' :: c :: t.escaped) ∨
      (c ≠ CodePoint.ofChar '\\' ∧ c ≠ CodePoint.ofChar '"' ∧
        Text.escaped (c :: t) = c :: t.escaped) := by
  by_cases h : c = CodePoint.ofChar '\\' ∨ c = CodePoint.ofChar '"'
  · refine .inl ⟨h, ?_⟩
    rw [Text.escaped, List.flatMap_cons, if_pos (by simpa using h)]
    rfl
  · refine .inr ⟨fun e => h (.inl e), fun e => h (.inr e), ?_⟩
    rw [Text.escaped, List.flatMap_cons, if_neg (by simpa using h)]
    rfl

/-- Text is read up to the next blank, whatever of it was escaped. -/
theorem scanText_escaped (s rest : Text) :
    scanText false (s.escaped ++ CodePoint.ofChar '"' :: rest) =
      (s.takeWhile (!Lexeme.isSpace ·),
        Text.escaped (s.dropWhile (!Lexeme.isSpace ·)) ++ CodePoint.ofChar '"' :: rest) := by
  induction s with
  | nil => rfl
  | cons c s ih =>
    rcases escaped_cons c s with ⟨special, e⟩ | ⟨slash, quote, e⟩
    · have space : Lexeme.isSpace c = false := by rcases special with rfl | rfl <;> decide
      rw [e, List.takeWhile_cons, List.dropWhile_cons]
      simp only [space, Bool.not_false, if_true]
      rw [List.cons_append, List.cons_append, scanText, if_neg (by decide), if_pos (by decide),
        scanText, if_neg (by simp [space]), if_neg (by simp), if_neg (by simp), ih]
    · have slash : (c.val == 0x5C) = false := CodePoint.val_beq_eq_false slash
      have quote : (c.val == 0x22) = false := CodePoint.val_beq_eq_false quote
      rw [e, List.cons_append, scanText, List.takeWhile_cons, List.dropWhile_cons]
      cases space : Lexeme.isSpace c with
      | true =>
        simp only [if_true, Bool.not_true, Bool.false_eq_true, if_false]
        rw [e, List.cons_append]
      | false =>
        simp only [slash, quote, ih, Bool.not_false, Bool.and_false, Bool.false_eq_true, if_false,
          if_true]

/-- Blanks are not escaped. -/
theorem span_escaped (s rest : Text) :
    (s.escaped ++ CodePoint.ofChar '"' :: rest).takeWhile CodePoint.isBlank =
        s.takeWhile CodePoint.isBlank ∧
      (s.escaped ++ CodePoint.ofChar '"' :: rest).dropWhile CodePoint.isBlank =
        Text.escaped (s.dropWhile CodePoint.isBlank) ++ CodePoint.ofChar '"' :: rest := by
  have quote : (CodePoint.ofChar '"').isBlank = false := by decide
  have slash : (CodePoint.ofChar '\\').isBlank = false := by decide
  induction s with
  | nil => simp [Text.escaped, quote]
  | cons c s ih =>
    rcases escaped_cons c s with ⟨special, e⟩ | ⟨-, -, e⟩
    · have blank : c.isBlank = false := by rcases special with rfl | rfl <;> assumption
      rw [List.takeWhile_cons, List.dropWhile_cons, blank, e]
      simp [slash, e]
    · rw [e, List.cons_append, List.takeWhile_cons, List.dropWhile_cons, List.takeWhile_cons,
        List.dropWhile_cons, ih.1, ih.2]
      cases c.isBlank <;> simp [e]

theorem escaped_head (c : CodePoint) (s rest : Text) :
    ∃ d t, Text.escaped (c :: s) ++ rest = d :: t ∧ d ≠ CodePoint.ofChar '"' ∧
      Lexeme.isSpace d = Lexeme.isSpace c := by
  rcases escaped_cons c s with ⟨special, e⟩ | ⟨-, quote, e⟩
  · refine ⟨CodePoint.ofChar '\\', _, by rw [e]; rfl, by decide, ?_⟩
    rcases special with rfl | rfl <;> decide
  · exact ⟨c, _, by rw [e]; rfl, quote, rfl⟩

theorem opensNoWord_escaped {s : Text} (h : s.OpensNoWord) : s.escaped.OpensNoWord := by
  induction s with
  | nil => exact h
  | cons c s ih =>
    obtain ⟨here, later⟩ := Text.opensNoWord_cons.1 h
    rcases escaped_cons c s with ⟨special, e⟩ | ⟨-, -, e⟩
    · have sign : c ≠ CodePoint.ofChar '=' := by rcases special with rfl | rfl <;> decide
      rw [e, Text.opensNoWord_cons, Text.opensNoWord_cons]
      exact ⟨fun h => absurd h.1 (by decide), fun h => sign h.1, ih later⟩
    · rw [e, Text.opensNoWord_cons]
      refine ⟨fun ⟨hc, hs⟩ => here ⟨hc, ?_⟩, ih later⟩
      cases s with
      | nil => exact hs
      | cons d s =>
        rcases escaped_cons d s with ⟨-, e⟩ | ⟨-, -, e⟩
        · rw [e] at hs
          exact absurd (Option.some.inj hs) (by decide)
        · rw [e] at hs
          exact hs

/-- The pieces of a text between quotation marks, when nothing in it looks like an encoded word. -/
structure Spells (pieces : List QuotedPiece) (s : Text) : Prop where
  content : contentOf pieces = s
  plain : ∀ piece ∈ pieces, isEncoded piece = false
  nonempty : s ≠ [] → pieces ≠ []

theorem Spells.cons {pieces : List QuotedPiece} {s t : Text} (h : Spells pieces t)
    {piece : QuotedPiece} (hp : piece = .text s ∨ piece = .blank s) :
    Spells (piece :: pieces) (s ++ t) where
  content := by rcases hp with rfl | rfl <;> rw [contentOf, h.content]
  plain := List.forall_mem_cons.2 ⟨by rcases hp with rfl | rfl <;> rfl, h.plain⟩
  nonempty := fun _ => List.cons_ne_nil _ _

theorem readPiece_escaped {c : CodePoint} {s : Text} (h : Text.OpensNoWord (c :: s)) (rest : Text) :
    ∃ p : CodePoint → Bool, p c = true ∧
      ∃ piece, (piece = .text ((c :: s).takeWhile p) ∨ piece = .blank ((c :: s).takeWhile p)) ∧
      readPiece (Text.escaped (c :: s) ++ CodePoint.ofChar '"' :: rest) =
        (piece, Text.escaped ((c :: s).dropWhile p) ++ CodePoint.ofChar '"' :: rest) := by
  obtain ⟨d, t, e, -, space⟩ := escaped_head c s (CodePoint.ofChar '"' :: rest)
  unfold readPiece
  rw [show Lexeme.headIs Lexeme.isSpace (Text.escaped (c :: s) ++ CodePoint.ofChar '"' :: rest) =
    Lexeme.isSpace c by rw [e]; exact space]
  cases hc : Lexeme.isSpace c with
  | true =>
    have blank := Lexeme.isBlank_of_isSpace hc
    rw [if_pos rfl, (span_escaped _ rest).1, (span_escaped _ rest).2]
    exact ⟨_, blank, _, .inr rfl, rfl⟩
  | false =>
    have none : EncodedWord.read? (Text.escaped (c :: s) ++ CodePoint.ofChar '"' :: rest) = none :=
      EncodedWord.read?_eq_none (opensNoWord_escaped h) (by decide) rest
    rw [if_neg (by simp), none]
    simp only [scanText_escaped]
    exact ⟨(!Lexeme.isSpace ·), by simp [hc], _, .inl rfl, rfl⟩

/-- A piece that is not empty leaves less to be read. -/
theorem length_escaped_dropWhile_lt {p : CodePoint → Bool} {c : CodePoint} (hp : p c = true)
    (s : Text) :
    (Text.escaped ((c :: s).dropWhile p)).length < (Text.escaped (c :: s)).length := by
  have whole : (c :: s).takeWhile p ++ (c :: s).dropWhile p = c :: s :=
    List.takeWhile_append_dropWhile
  have lengths := congrArg List.length (Text.escaped_append ((c :: s).takeWhile p)
    ((c :: s).dropWhile p))
  rw [whole, List.length_append, List.takeWhile_cons, if_pos hp] at lengths
  obtain ⟨d, t, e, -⟩ := escaped_head c (s.takeWhile p) []
  rw [List.append_nil] at e
  rw [lengths, e, List.length_cons]
  omega

/-- The pieces up to the closing mark spell what stands before it. -/
theorem readPieces_escaped {s : Text} (h : s.OpensNoWord) {fuel : Nat}
    (enough : s.escaped.length ≤ fuel) (rest : Text) :
    ∃ pieces, readPieces fuel (s.escaped ++ CodePoint.ofChar '"' :: rest) =
      (pieces, CodePoint.ofChar '"' :: rest) ∧ Spells pieces s := by
  induction fuel generalizing s with
  | zero =>
    cases s with
    | nil => exact ⟨[], rfl, rfl, fun _ h => (by cases h), fun h => absurd rfl h⟩
    | cons c s =>
      obtain ⟨d, t, e, -⟩ := escaped_head c s []
      rw [List.append_nil] at e
      rw [e] at enough
      cases enough
  | succ fuel ih =>
    cases s with
    | nil => exact ⟨[], rfl, rfl, fun _ h => (by cases h), fun h => absurd rfl h⟩
    | cons c s =>
      -- a piece is a run of blanks or of others, and not empty
      obtain ⟨p, hp, piece, hpiece, e⟩ := readPiece_escaped h rest
      have shorter := length_escaped_dropWhile_lt hp s
      obtain ⟨pieces, e', spells⟩ := ih (h.dropWhile p) (by omega)
      refine ⟨piece :: pieces, ?_, ?_⟩
      · obtain ⟨d, t, head, quote, -⟩ := escaped_head c s (CodePoint.ofChar '"' :: rest)
        have goesOn : ((Text.escaped (c :: s) ++ CodePoint.ofChar '"' :: rest).isEmpty ||
            Lexeme.headIs (·.val == 0x22) (Text.escaped (c :: s) ++ CodePoint.ofChar '"' :: rest)) =
            false := by
          rw [head]
          exact CodePoint.val_beq_eq_false quote
        rw [readPieces, goesOn, e]
        simp only [Bool.false_eq_true, if_false, e']
      · have := spells.cons hpiece
        rwa [List.takeWhile_append_dropWhile] at this

/-- **A text between quotation marks is read as it is**, unless something in it looks like an
encoded word. -/
theorem readOpened_escaped {s : Text} (h : s.OpensNoWord) (rest : Text) :
    ∃ q, readOpened (s.escaped ++ CodePoint.ofChar '"' :: rest) = (q, rest) ∧ q.content = s ∧
      q.defects = [] ∧ q.pieces ≠ [] := by
  have enough : s.escaped.length ≤ (s.escaped ++ CodePoint.ofChar '"' :: rest).length := by simp
  obtain ⟨pieces, e, spells⟩ := readPieces_escaped h enough rest
  have sound : ∀ {pieces : List QuotedPiece}, (∀ piece ∈ pieces, isEncoded piece = false) →
      defects ⟨pieces, false⟩ = [] := by
    intro pieces plain
    have none : pieces.any isEncoded = false := List.any_eq_false.2 fun piece hp => by
      simp [plain piece hp]
    have each : pieces.flatMap pieceDefects = [] := by
      refine List.flatMap_eq_nil_iff.2 fun piece hp => ?_
      have := plain piece hp
      cases piece with
      | encoded w => cases this
      | _ => rfl
    simp [defects, none, each]
  unfold readOpened
  simp only [e]
  refine ⟨_, rfl, ?_, ?_, ?_⟩
  · split
    · exact spells.content
    · exact spells.content
  · split
    · exact sound (List.forall_mem_cons.2 ⟨rfl, spells.plain⟩)
    · exact sound spells.plain
  · cases s with
    | nil => exact List.cons_ne_nil _ _
    | cons c s =>
      exact fun e => spells.nonempty (List.cons_ne_nil _ _) (List.append_eq_nil_iff.1 e).2

end QuotedString

/-! ### Words -/

namespace Word

/-- A word, and no bracket, may begin with the code point. -/
structure Begins (c : CodePoint) : Prop where
  unblank : c.isBlank = false
  start : Filler.canStart c = false
  phrase : Lexeme.endsPhrase c = false
  dot : (c.val == 0x2E) = false
  bracket : (c.val == 0x3C) = false

instance (c : CodePoint) : Decidable (Begins c) :=
  decidable_of_iff (c.isBlank = false ∧ Filler.canStart c = false ∧ Lexeme.endsPhrase c = false ∧
    (c.val == 0x2E) = false ∧ (c.val == 0x3C) = false)
    ⟨fun h => ⟨h.1, h.2.1, h.2.2.1, h.2.2.2.1, h.2.2.2.2⟩,
      fun h => ⟨h.unblank, h.start, h.phrase, h.dot, h.bracket⟩⟩

theorem Begins.stops {c : CodePoint} (h : Begins c) (t : Text) : Filler.Stops (c :: t) :=
  Filler.stops_cons.2 ⟨h.unblank, h.start⟩

/-- The filler after a word, and the text after that. -/
def closed (core : WordCore) (rest : Text) : Word × Text :=
  (⟨none, core, (Filler.skip rest).1⟩, (Filler.skip rest).2)

theorem read?_inQuotes {s : Text} (h : s.OpensNoWord) (rest : Text) :
    ∃ q : QuotedString, read? (s.inQuotes ++ rest) = some (closed (.quoted q) rest) ∧
      q.content = s ∧ q.defects = [] ∧ q.pieces ≠ [] := by
  obtain ⟨q, e, content, defects, pieces⟩ := QuotedString.readOpened_escaped h rest
  refine ⟨q, ?_, content, defects, pieces⟩
  have begins : s.inQuotes ++ rest =
      CodePoint.ofChar '"' :: (s.escaped ++ CodePoint.ofChar '"' :: rest) := by
    rw [Text.inQuotes_eq]
    simp
  rw [begins, read?, Filler.skip_of_not_canStart (by decide)]
  simp only [e]
  rfl

theorem read?_encode (octets : Octets) (rest : Text) :
    read? (EncodedWord.encode octets ++ CodePoint.ofChar ' ' :: rest) =
      some (closed (.encoded ⟨Utf8.decodeKeeping octets, []⟩) (CodePoint.ofChar ' ' :: rest)) := by
  have word := EncodedWord.read?_encode octets rest
  obtain ⟨t, begins⟩ := EncodedWord.encode_head octets
  rw [begins, List.cons_append] at word ⊢
  have core : readAtomCore? (CodePoint.ofChar '=' :: (t ++ CodePoint.ofChar ' ' :: rest)) =
      some (.encoded ⟨Utf8.decodeKeeping octets, []⟩, CodePoint.ofChar ' ' :: rest) := by
    have letter : ¬ Lexeme.headIs Lexeme.endsAtom
        (CodePoint.ofChar '=' :: (t ++ CodePoint.ofChar ' ' :: rest)) = true := by
      show ¬ Lexeme.endsAtom (CodePoint.ofChar '=') = true
      decide
    rw [readAtomCore?, if_neg letter, word]
  rw [read?, Filler.skip_of_not_canStart (by decide)]
  simp only
  rw [if_neg (by decide), if_neg (by decide), core]
  rfl

/-- A gap before a word goes to it. -/
theorem read?_gap {g t : Text} (gap : g.IsGap) (stops : Filler.Stops t) :
    read? (g ++ t) =
      (read? t).map fun (w, rest) => ({ w with before := Filler.ofGap g }, rest) := by
  unfold read?
  simp only [Filler.skip_gap gap stops, Filler.skip_of_stops stops]
  rw [Option.map_map]
  rfl

theorem closed_gap {g rest : Text} (core : WordCore) (gap : g.IsGap) (stops : Filler.Stops rest) :
    closed core (g ++ rest) = (⟨none, core, Filler.ofGap g⟩, rest) := by
  rw [closed, Filler.skip_gap gap stops]

/-- No word begins with a code point that has a meaning of its own, but for quotation marks. -/
theorem read?_eq_none {c : CodePoint} (start : Filler.canStart c = false)
    (quote : c ≠ CodePoint.ofChar '"') (special : Lexeme.isSpecial c = true) (rest : Text) :
    read? (c :: rest) = none := by
  have quote : (c.val == 0x22) = false := CodePoint.val_beq_eq_false quote
  rw [read?, Filler.skip_of_not_canStart start]
  simp only [quote, special]
  rfl

/-- An atom is read up to what ends it. -/
theorem read?_atom {s : Text} (nonempty : s ≠ []) (h : ∀ c ∈ s, Lexeme.endsAtom c = false)
    (opens : s.OpensNoWord) {d : CodePoint} (ends : Lexeme.endsAtom d = true) (rest : Text) :
    read? (s ++ d :: rest) = some (closed (.atom s) (d :: rest)) := by
  have none := EncodedWord.read?_eq_none opens (Lexeme.not_sign_of_endsAtom ends) rest
  have atom : Lexeme.atom? (s ++ d :: rest) = some (s, d :: rest) := by
    obtain ⟨run, others⟩ := Lexeme.span_of_ends h ends rest
    unfold Lexeme.atom?
    simp only [run, others]
    rw [if_neg (by simpa using nonempty)]
  obtain ⟨c, s, rfl⟩ := List.exists_cons_of_ne_nil nonempty
  have hc := h c List.mem_cons_self
  obtain ⟨special, space⟩ : Lexeme.isSpecial c = false ∧ Lexeme.isSpace c = false := by
    simpa [Lexeme.endsAtom] using hc
  have apart : ∀ d' : CodePoint, Lexeme.isSpecial d' = true → (c.val == d'.val) = false := by
    intro d' h'
    refine CodePoint.val_beq_eq_false fun e => ?_
    rw [← e, special] at h'
    cases h'
  have start : Filler.canStart c = false := by
    rw [Filler.canStart, space, Bool.false_or]
    exact apart (CodePoint.ofChar '(') (by decide)
  have quote : (c.val == 0x22) = false := apart (CodePoint.ofChar '"') (by decide)
  -- the atom is tried last, when no filler, no quotation and no encoded word begins here
  rw [List.cons_append] at none atom ⊢
  have core : readAtomCore? (c :: (s ++ d :: rest)) = some (.atom (c :: s), d :: rest) := by
    rw [readAtomCore?, if_neg (by rw [Lexeme.headIs, hc]; simp), none, atom]
    rfl
  rw [read?, Filler.skip_of_not_canStart start]
  simp only
  rw [quote, special, core]
  rfl

end Word

/-! ### Display names -/

namespace Phrase

/-- A word before an angle bracket is a phrase. -/
theorem read_word {t rest : Text} {core : WordCore} {f : Filler} (e : Word.read? t =
    some (⟨none, core, some f⟩, CodePoint.ofChar '<' :: rest)) (closed : f.unclosed = false)
    (defects : core.defects = []) :
    ∃ p : Phrase, read t = (p, CodePoint.ofChar '<' :: rest) ∧ p.defects = [] ∧
      p.name = .ok core.value ∧ ∃ w items, p.items = .word w :: items := by
  refine ⟨⟨[.word ⟨none, core, some f⟩], false⟩, ?_, ?_, ?_, _, _, rfl⟩
  · rw [read, e]
    rfl
  · simp [Phrase.defects, itemDefects, Word.defects, fillerDefects, commentDefects, closed, defects]
  · show Except.ok ([PhraseItem.word ⟨none, core, none⟩].flatMap itemValue) = _
    simp [itemValue, Word.value, fillerValue]

end Phrase

end Address

end Mailroom
