import Mailroom.Console.Markup
import Mailroom.Proofs.Console.Emoji
import Mailroom.Proofs.Perform
import Mathlib.Data.List.Infix

/-!
# Texts that are no markup

Rendering takes the tags of a text away, and backslashes in front of brackets. So a text loses
brackets or backslashes, unless it has none that mean anything.

* `Markup.HasTag`, `Markup.HasEscape`: what means something in a text;
* `Markup.pieces_cases`: what a marked text begins with, and what pieces that gives;
* `Markup.pieces_of_not_hasTag`: a text without tags is one piece;
* `Markup.output_of_render`: what is rendered has no more marks than the pieces;
* `Markup.render_of_not_hasTag`: a text without tags is rendered as one piece.
-/

namespace Mailroom.Markup

/-! ### What means something -/

/-- A tag stands somewhere in the text, perhaps with backslashes in front of it. -/
def HasTag (t : Text) : Prop :=
  ∃ before c body after, t = before ++ CodePoint.ofChar '[' :: c :: body ++ CodePoint.ofChar ']' ::
      after ∧ opensTag c = true ∧ CodePoint.ofChar '[' ∉ body ∧ CodePoint.ofChar ']' ∉ body

/-- A backslash stands in front of an opening bracket. -/
def HasEscape (t : Text) : Prop :=
  ∃ before after, t = before ++ CodePoint.ofChar '\\' :: CodePoint.ofChar '[' :: after

/-- An opening bracket or a backslash. -/
def isMark (c : CodePoint) : Bool := c.val == 0x5B || c.val == 0x5C

theorem isMark_of_isPictorial {c : CodePoint} (h : Emoji.isPictorial c.val = true) :
    isMark c = false := by
  unfold Emoji.isPictorial at h
  unfold isMark
  simp only [Bool.or_eq_true, Bool.and_eq_true, decide_eq_true_eq, beq_iff_eq] at h
  simp only [Bool.or_eq_false_iff, beq_eq_false_iff_ne]
  omega

theorem untilBracket?_eq_some_iff {t body : Text} :
    untilBracket? t = some body ↔ (∃ after, t = body ++ CodePoint.ofChar ']' :: after) ∧
      CodePoint.ofChar '[' ∉ body ∧ CodePoint.ofChar ']' ∉ body := by
  induction t generalizing body with
  | nil => simp [untilBracket?]
  | cons c t ih =>
    rw [untilBracket?]
    by_cases closing : c = CodePoint.ofChar ']'
    · rw [if_pos closing, closing]
      constructor
      · rintro ⟨⟩
        exact ⟨⟨t, rfl⟩, nofun, nofun⟩
      · rintro ⟨⟨after, whole⟩, -, noClosing⟩
        rcases List.cons_eq_append_iff.1 whole with ⟨rfl, -⟩ | ⟨rest, rfl, -⟩
        · rfl
        · exact absurd List.mem_cons_self noClosing
    rw [if_neg closing]
    by_cases opening : c = CodePoint.ofChar '['
    · rw [if_pos opening, opening]
      refine ⟨nofun, ?_⟩
      rintro ⟨⟨after, whole⟩, noOpening, -⟩
      rcases List.cons_eq_append_iff.1 whole with ⟨rfl, same⟩ | ⟨rest, rfl, -⟩
      · exact absurd (List.cons.inj same).1 (by decide)
      · exact absurd List.mem_cons_self noOpening
    rw [if_neg opening, Option.map_eq_some_iff]
    constructor
    · rintro ⟨rest, found, rfl⟩
      obtain ⟨⟨after, rfl⟩, noOpening, noClosing⟩ := ih.1 found
      exact ⟨⟨after, rfl⟩, by simp [Ne.symm opening, noOpening],
        by simp [Ne.symm closing, noClosing]⟩
    · rintro ⟨⟨after, whole⟩, noOpening, noClosing⟩
      rcases List.cons_eq_append_iff.1 whole with ⟨rfl, same⟩ | ⟨rest, rfl, same⟩
      · exact absurd (List.cons.inj same).1.symm closing
      · rw [List.mem_cons, not_or] at noOpening noClosing
        exact ⟨rest, ih.2 ⟨⟨after, same⟩, noOpening.2, noClosing.2⟩, rfl⟩

/-- The text of a tag with its brackets and the backslashes in front of it. -/
def Found.written (f : Found) : Text :=
  List.replicate f.slashes (CodePoint.ofChar '\\') ++
    (CodePoint.ofChar '[' :: f.body ++ [CodePoint.ofChar ']'])

theorem Found.length_written (f : Found) : f.written.length = f.length := by
  simp only [written, length, List.length_append, List.length_replicate, List.length_cons,
    List.length_nil]
  omega

theorem HasTag.cons {t : Text} (c : CodePoint) (h : HasTag t) : HasTag (c :: t) := by
  obtain ⟨before, d, body, after, rfl, tag⟩ := h
  exact ⟨c :: before, d, body, after, rfl, tag⟩

/-- A tag that is found is there. -/
theorem written_of_found? {t : Text} {f : Found} (h : found? t = some f) :
    HasTag t ∧ ∃ rest, t = f.written ++ rest := by
  induction t generalizing f with
  | nil => cases h
  | cons c t ih =>
    unfold found? at h
    by_cases slash : c = CodePoint.ofChar '\\'
    · rw [if_pos slash] at h
      obtain ⟨f', found, rfl⟩ := Option.map_eq_some_iff.1 h
      obtain ⟨tag, rest, rfl⟩ := ih found
      exact ⟨tag.cons c, rest, by rw [slash]; rfl⟩
    rw [if_neg slash] at h
    by_cases opening : c = CodePoint.ofChar '['
    · rw [if_pos opening] at h
      cases t with
      | nil => cases h
      | cons d t =>
        by_cases opens : opensTag d = true
        · simp only [if_pos opens] at h
          obtain ⟨body, found, rfl⟩ := Option.map_eq_some_iff.1 h
          obtain ⟨⟨after, rfl⟩, noOpening, noClosing⟩ := untilBracket?_eq_some_iff.1 found
          refine ⟨⟨[], d, body, after, by rw [opening]; rfl, opens, noOpening, noClosing⟩, after, ?_⟩
          rw [opening, Found.written]
          simp
        · simp only [if_neg opens] at h
          cases h
    · rw [if_neg opening] at h
      cases h

/-- A tag at the beginning of a text is found. -/
theorem exists_found? {c : CodePoint} {body : Text} (after : Text) (opens : opensTag c = true)
    (noOpening : CodePoint.ofChar '[' ∉ body) (noClosing : CodePoint.ofChar ']' ∉ body) :
    ∃ f, found? (CodePoint.ofChar '[' :: c :: body ++ CodePoint.ofChar ']' :: after) = some f := by
  have found := untilBracket?_eq_some_iff.2 ⟨⟨after, rfl⟩, noOpening, noClosing⟩
  refine ⟨⟨0, c :: body⟩, ?_⟩
  rw [List.cons_append, List.cons_append, found?, if_neg (by decide), if_pos rfl]
  simp only [if_pos opens, found, Option.map_some]

/-! ### Pieces -/

/-- What a piece has of the text. -/
def Piece.raw : Piece → Text
  | plain t => t
  | literal t => t
  | tag _ => []

/-- What some pieces have of the text. -/
def rawOf (pieces : List Piece) : Text := pieces.flatMap Piece.raw

theorem rawOf_append (ps qs : List Piece) : rawOf (ps ++ qs) = rawOf ps ++ rawOf qs :=
  List.flatMap_append

theorem rawOf_consPlain (c : CodePoint) (ps : List Piece) :
    rawOf (consPlain c ps) = c :: rawOf ps := by
  unfold consPlain
  split <;> rfl

theorem piecesFrom_append (s t : Text) : piecesFrom s.length (s ++ t) = pieces t := by
  induction s with
  | nil => cases t <;> rfl
  | cons c s ih => exact ih

/-- A text begins with a tag, which is a piece, or with a code point of a plain piece. -/
theorem pieces_cases (c : CodePoint) (t : Text) :
    (∃ f rest, c :: t = f.written ++ rest ∧ found? (c :: t) = some f ∧
      pieces (c :: t) = f.pieces ++ pieces rest) ∨
    (found? (c :: t) = none ∧ pieces (c :: t) = consPlain c (pieces t)) := by
  cases found : found? (c :: t) with
  | none =>
    refine .inr ⟨rfl, ?_⟩
    rw [pieces, piecesFrom, found]
    rfl
  | some f =>
    obtain ⟨-, rest, whole⟩ := written_of_found? found
    obtain ⟨d, s, hs⟩ : ∃ d s, f.written = d :: s :=
      List.exists_cons_of_length_pos (by rw [f.length_written, Found.length]; omega)
    rw [hs] at whole
    obtain ⟨rfl, rfl⟩ := List.cons.inj whole
    refine .inl ⟨f, rest, by rw [hs]; rfl, rfl, ?_⟩
    have shorter : s.length = f.length - 1 := by
      rw [← f.length_written, hs]
      rfl
    rw [pieces, piecesFrom, found]
    dsimp only
    rw [← shorter]
    exact congrArg (f.pieces ++ ·) (piecesFrom_append s rest)

theorem Found.rawOf_pieces (f : Found) :
    rawOf f.pieces = List.replicate (f.slashes / 2) (CodePoint.ofChar '\\') ++
      if f.slashes % 2 = 1 then CodePoint.ofChar '[' :: f.body ++ [CodePoint.ofChar ']'] else [] := by
  have front (slashes : Text) :
      rawOf (if slashes.isEmpty then [] else [.literal slashes]) = slashes := by
    cases slashes with
    | nil => rfl
    | cons c slashes => exact List.append_nil _
  unfold pieces
  dsimp only
  split
  · rw [rawOf_append, front]
    exact congrArg (_ ++ ·) (List.append_nil _)
  · rw [rawOf_append, front]
    rfl

/-- A tag takes marks away: its bracket, or a backslash. -/
theorem Found.countP_pieces_lt (f : Found) :
    (rawOf f.pieces).countP isMark < f.written.countP isMark := by
  have slash : isMark (CodePoint.ofChar '\\') = true := by decide
  rw [f.rawOf_pieces, written, List.countP_append, List.countP_append, List.countP_replicate,
    List.countP_replicate, if_pos slash, if_pos slash]
  split
  · omega
  · have bracket : 0 < (CodePoint.ofChar '[' :: f.body ++ [CodePoint.ofChar ']']).countP isMark :=
      List.countP_pos_iff.2 ⟨_, List.mem_cons_self, by decide⟩
    rw [List.countP_nil]
    omega

/-- A tag that does not stand at the beginning stands behind it. -/
theorem HasTag.of_cons {c : CodePoint} {t : Text} (h : HasTag (c :: t))
    (unfound : found? (c :: t) = none) : HasTag t := by
  obtain ⟨before, d, body, after, whole, opens, noOpening, noClosing⟩ := h
  cases before with
  | nil =>
    obtain ⟨f, found⟩ := exists_found? after opens noOpening noClosing
    rw [whole] at unfound
    cases unfound.symm.trans found
  | cons b before =>
    obtain ⟨rfl, rfl⟩ := List.cons.inj whole
    exact ⟨before, d, body, after, rfl, opens, noOpening, noClosing⟩

/-- **Tags take marks away**, and no piece brings any in. -/
theorem countP_pieces_le (t : Text) :
    (rawOf (pieces t)).countP isMark ≤ t.countP isMark ∧
      (HasTag t → (rawOf (pieces t)).countP isMark < t.countP isMark) := by
  induction h : t.length using Nat.strongRecOn generalizing t with
  | ind n ih =>
    cases t with
    | nil =>
      refine ⟨Nat.le_refl _, ?_⟩
      rintro ⟨before, d, body, after, whole, -⟩
      exact absurd whole.symm (by simp)
    | cons c t =>
      rcases pieces_cases c t with ⟨f, rest, whole, -, he⟩ | ⟨unfound, he⟩
      · have shorter : rest.length < n := by
          rw [← h, whole, List.length_append, f.length_written, Found.length]
          omega
        have lost := f.countP_pieces_lt
        have others := (ih rest.length shorter rest rfl).1
        rw [he, rawOf_append, whole, List.countP_append, List.countP_append]
        exact ⟨by omega, fun _ => by omega⟩
      · obtain ⟨others, tagged⟩ := ih t.length (by simp [← h]) t rfl
        rw [he, rawOf_consPlain, List.countP_cons, List.countP_cons]
        refine ⟨by omega, fun tag => ?_⟩
        have := tagged (tag.of_cons unfound)
        omega

/-- A text without tags is one piece. -/
theorem pieces_of_not_hasTag {t : Text} (nonempty : t ≠ []) (noTag : ¬ HasTag t) :
    pieces t = [.plain t] := by
  induction t with
  | nil => exact absurd rfl nonempty
  | cons c t ih =>
    rcases pieces_cases c t with ⟨f, rest, -, found, -⟩ | ⟨-, he⟩
    · exact absurd (written_of_found? found).1 noTag
    · rw [he]
      cases t with
      | nil => rfl
      | cons d t =>
        rw [ih (List.cons_ne_nil _ _) (fun tag => noTag (tag.cons c))]
        rfl

/-! ### Rendering -/

theorem HasEscape.cons {t : Text} (c : CodePoint) (h : HasEscape t) : HasEscape (c :: t) := by
  obtain ⟨before, after, rfl⟩ := h
  exact ⟨c :: before, after, rfl⟩

theorem unescaped_sublist (t : Text) : (unescaped t).Sublist t := by
  fun_induction unescaped t with
  | case1 => exact List.Sublist.refl _
  | case2 => exact List.Sublist.refl _
  | case3 c d t _ ih => exact (ih.cons_cons d).cons c
  | case4 c d t _ ih => exact ih.cons_cons c

theorem unescaped_of_not_hasEscape {t : Text} (h : ¬ HasEscape t) : unescaped t = t := by
  fun_induction unescaped t with
  | case1 => rfl
  | case2 => rfl
  | case3 c d t escape _ =>
    obtain ⟨rfl, rfl⟩ := escape
    exact absurd ⟨[], t, rfl⟩ h
  | case4 c d t _ ih => rw [ih fun escape => h (escape.cons c)]

/-- A backslash in front of a bracket is lost. -/
theorem countP_unescaped_lt {t : Text} (h : HasEscape t) :
    (unescaped t).countP isMark < t.countP isMark := by
  fun_induction unescaped t with
  | case1 =>
    obtain ⟨before, after, whole⟩ := h
    exact absurd whole.symm (by simp)
  | case2 c =>
    obtain ⟨before, after, whole⟩ := h
    have := congrArg List.length whole
    simp at this
    omega
  | case3 c d t escape _ =>
    obtain ⟨rfl, rfl⟩ := escape
    have := (unescaped_sublist t).countP_le (p := isMark)
    have slash : isMark (CodePoint.ofChar '\\') = true := by decide
    rw [List.countP_cons, List.countP_cons, List.countP_cons, if_pos slash]
    omega
  | case4 c d t plain ih =>
    have later : HasEscape (d :: t) := by
      obtain ⟨before, after, whole⟩ := h
      cases before with
      | nil =>
        obtain ⟨rfl, rest⟩ := List.cons.inj whole
        exact absurd ⟨rfl, (List.cons.inj rest).1⟩ plain
      | cons b before => exact ⟨before, after, (List.cons.inj whole).2⟩
    have := ih later
    rw [List.countP_cons, List.countP_cons]
    omega

theorem countP_shown_le (t : Text) : (shown t).countP isMark ≤ t.countP isMark :=
  Nat.le_trans (List.filter_sublist.countP_le)
    (Emoji.countP_expand_le (fun _ => isMark_of_isPictorial) t)

theorem output_of_close {r r' : Rendering} {name : Text} (h : close r name = .ok r') :
    r'.output = r.output := by
  unfold close at h
  dsimp only at h
  -- whether or not the tag is named, closing it adds nothing
  split at h
  all_goals
    obtain ⟨name, -, h⟩ := bind_eq_ok_iff.1 h
    split at h
    · cases h
    split at h
    · split at h <;> cases h
      rfl
    · cases h
      rfl

/-- What a piece adds has no more marks than the piece. -/
theorem output_of_step {r r' : Rendering} {piece : Piece} (h : step r piece = .ok r') :
    ∃ out, r'.output = r.output ++ out ∧ out.countP isMark ≤ piece.raw.countP isMark := by
  cases piece with
  | plain t =>
    cases h
    refine ⟨_, rfl, Nat.le_trans (countP_shown_le _) ?_⟩
    exact (unescaped_sublist t).countP_le
  | literal t =>
    cases h
    exact ⟨_, rfl, countP_shown_le t⟩
  | tag tag =>
    refine ⟨[], ?_, Nat.le_refl _⟩
    rw [List.append_nil]
    unfold step at h
    dsimp only at h
    split at h
    · split at h
      · exact output_of_close h
      · obtain ⟨name, -, h⟩ := bind_eq_ok_iff.1 h
        cases h
        rfl
    · cases h
      rfl

/-- What is rendered has no more marks than the pieces. -/
theorem output_of_foldlM {r r' : Rendering} {ps : List Piece} (h : ps.foldlM step r = .ok r') :
    ∃ out, r'.output = r.output ++ out ∧ out.countP isMark ≤ (rawOf ps).countP isMark := by
  induction ps generalizing r with
  | nil =>
    cases h
    exact ⟨[], by simp, Nat.le_refl _⟩
  | cons piece ps ih =>
    rw [List.foldlM_cons] at h
    obtain ⟨r₁, first, h⟩ := bind_eq_ok_iff.1 h
    obtain ⟨out₁, e₁, less₁⟩ := output_of_step first
    obtain ⟨out₂, e₂, less₂⟩ := ih h
    refine ⟨out₁ ++ out₂, by rw [e₂, e₁, List.append_assoc], ?_⟩
    rw [rawOf, List.flatMap_cons, List.countP_append, List.countP_append]
    exact Nat.add_le_add less₁ less₂

/-! ### Behind a closed style -/

theorem pieces_dimmed (u : Text) : pieces ("[dim](dry-run)[/]" ++ u) =
    [.tag ⟨"dim", none⟩, .plain "(dry-run)", .tag ⟨"/", none⟩] ++ pieces u := rfl

/-- What has been rendered behind the closed style. -/
def dimmed : Rendering := ⟨"(dry-run)", [], ["dim"]⟩

theorem foldlM_dimmed (u : Text) :
    (pieces ("[dim](dry-run)[/]" ++ u)).foldlM step ⟨[], [], []⟩ = (pieces u).foldlM step dimmed := by
  have first : [Piece.tag ⟨"dim", none⟩, .plain "(dry-run)", .tag ⟨"/", none⟩].foldlM step
      ⟨[], [], []⟩ = .ok dimmed := rfl
  rw [pieces_dimmed, List.foldlM_append, first]
  rfl

/-- What is rendered behind the closed style has no more marks than the pieces. -/
theorem output_of_render {u t : Text} (h : render ("[dim](dry-run)[/]" ++ u) = .ok t) :
    ∃ out, t = "(dry-run)" ++ out ∧ out.countP isMark ≤ (rawOf (pieces u)).countP isMark := by
  obtain ⟨r, hr, h⟩ := bind_eq_ok_iff.1 h
  obtain ⟨-, -, h⟩ := bind_eq_ok_iff.1 h
  cases h
  rw [foldlM_dimmed] at hr
  exact output_of_foldlM hr

/-- Behind the closed style, a text without tags is rendered as a plain piece. -/
theorem render_of_not_hasTag {u : Text} (nonempty : u ≠ []) (noTag : ¬ HasTag u) :
    render ("[dim](dry-run)[/]" ++ u) = .ok ("(dry-run)" ++ shown (unescaped u)) := by
  rw [render, foldlM_dimmed, pieces_of_not_hasTag nonempty noTag]
  rfl

end Mailroom.Markup
