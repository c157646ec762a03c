import Mailroom.Header.Reader
import Mailroom.Proofs.Header.History
import Mailroom.Proofs.Text.Blank
import Mailroom.Proofs.Text.Split

/-!
# Unfolding header lines

A field may be folded: its text goes on in the lines that begin with a space or a tab.

* `FieldName.IsLabel`: what may stand before the colon of a line that begins a field;
* `FoldedField`: a field as it stands in some lines, with its `pieces` and its `value`;
* `Header.unfoldLines_append`, `Header.exists_folded`: lines that are read are folded fields, one
  after the other, and the other way round;
* `FoldedField.value_eq_squeezed_iff`, `FoldedField.trim_value_iff`: blank continuation lines leave
  their spaces behind, so that a value need not be its pieces with single spaces between them;
* `Header.parse_unfolds`: all of it, for the header of any lines.
-/

namespace Mailroom

/-- What may stand before the colon of a line that begins a field. -/
structure FieldName.IsLabel (name : Text) : Prop where
  nonempty : name ≠ []
  trimmed : name.trim = name
  colonless : CodePoint.ofChar ':' ∉ name
  spaceless : ∀ c ∈ name, c.val ≠ 0x20 ∧ c.val ≠ 0x09

/-- A field as it stands in some lines: its name, what follows the colon, and the lines in which it
goes on. -/
structure FoldedField where
  name : Text
  opening : Text
  more : List Text
deriving DecidableEq

namespace FoldedField

/-- The line that begins the field. -/
def firstLine (f : FoldedField) : Text := f.name ++ CodePoint.ofChar ':' :: f.opening

/-- The lines of the field. -/
def lines (f : FoldedField) : List Text := f.firstLine :: f.more

/-- The name may stand before a colon, and all but the first line are continuations. -/
structure IsProper (f : FoldedField) : Prop where
  label : FieldName.IsLabel f.name
  continued : ∀ line ∈ f.more, Header.isContinuation line = true

/-- What the lines contribute to the value. -/
def pieces (f : FoldedField) : List Text := (f.opening :: f.more).map Text.trim

/-- The pieces from the first one that is not empty on. -/
def core (f : FoldedField) : List Text := f.pieces.dropWhile List.isEmpty

/-- The value under which the field is stored. -/
def value (f : FoldedField) : Text := Text.join " " f.core

/-- The pieces that are not empty, with a single space between each two. -/
def squeezed (f : FoldedField) : Text := Text.join " " (f.pieces.filter fun piece => !piece.isEmpty)

end FoldedField

namespace Header

/-! ### One line -/

/-- A line begins a field exactly if a label stands before its first colon. -/
theorem splitLine_eq_ok_iff {line name value : Text} :
    splitLine line = .ok (name, value) ↔
      ∃ opening : Text, line = name ++ CodePoint.ofChar ':' :: opening ∧ FieldName.IsLabel name ∧
        value = opening.trim := by
  constructor
  · intro e
    unfold splitLine at e
    split at e
    · next before rest cut =>
      split at e
      · cases e
      · next proper =>
        cases e
        simp only [Bool.or_eq_true, not_or, List.isEmpty_iff, bne_iff_ne, Ne, not_not,
          List.any_eq_true, not_exists, not_and, beq_iff_eq] at proper
        obtain ⟨⟨nonempty, trimmed⟩, spaceless⟩ := proper
        exact ⟨rest, Text.eq_of_cut? cut,
          ⟨nonempty, trimmed.symm, Text.not_mem_of_cut? cut, spaceless⟩, rfl⟩
    · cases e
  · rintro ⟨opening, rfl, label, rfl⟩
    unfold splitLine
    rw [Text.cut?_append label.colonless]
    dsimp only
    rw [if_neg]
    simp only [Bool.or_eq_true, not_or, List.isEmpty_iff, bne_iff_ne, Ne, not_not,
      List.any_eq_true, not_exists, not_and, beq_iff_eq]
    exact ⟨⟨label.nonempty, label.trimmed.symm⟩, label.spaceless⟩

/-- A line that begins a field is no continuation. -/
theorem isContinuation_append {name : Text} (label : FieldName.IsLabel name) (rest : Text) :
    isContinuation (name ++ rest) = false := by
  obtain ⟨c, t, rfl⟩ := List.exists_cons_of_ne_nil label.nonempty
  have first := label.spaceless c List.mem_cons_self
  simp [isContinuation, first.1, first.2]

/-! ### Continuation lines -/

/-- A value with a continuation line put behind it. -/
def extend (value line : Text) : Text :=
  if value.isEmpty then line.trim else value ++ " " ++ line.trim

/-- A value with continuation lines put behind it is joined from the first piece that is not empty
on: pieces before it leave nothing behind, and empty ones after it leave their space. -/
theorem foldl_extend (value : Text) (lines : List Text) :
    lines.foldl extend value =
      Text.join " " ((value :: lines.map Text.trim).dropWhile List.isEmpty) := by
  induction lines generalizing value with
  | nil => cases value <;> rfl
  | cons line lines ih =>
    rw [List.foldl_cons, ih, List.map_cons]
    cases value with
    | nil => rfl
    | cons c value =>
      -- the piece that is put behind the value is the one that comes next
      cases lines <;> simp [extend, Text.join]

theorem unfoldLines_continued {lines : List Text}
    (continued : ∀ line ∈ lines, isContinuation line = true) (name value : Text)
    (rest : List Text) :
    unfoldLines (some (name, value)) (lines ++ rest) =
      unfoldLines (some (name, lines.foldl extend value)) rest := by
  induction lines generalizing value with
  | nil => rfl
  | cons line lines ih =>
    rw [List.forall_mem_cons] at continued
    rw [List.cons_append, unfoldLines, if_pos continued.1, List.foldl_cons]
    exact ih continued.2 _

/-! ### All lines -/

/-- The lines of a folded field end the field before it and are read as its name and its value. -/
theorem unfoldLines_append {f : FoldedField} (proper : f.IsProper)
    (pending : Option (Text × Text)) (rest : List Text) :
    unfoldLines pending (f.lines ++ rest) =
      (unfoldLines (some (f.name, f.value)) rest).map (pending.toList ++ ·) := by
  have begins : splitLine f.firstLine = .ok (f.name, f.opening.trim) :=
    splitLine_eq_ok_iff.2 ⟨f.opening, rfl, proper.label, rfl⟩
  have fresh : isContinuation f.firstLine = false := isContinuation_append proper.label _
  have value : f.more.foldl extend f.opening.trim = f.value := foldl_extend _ _
  rw [FoldedField.lines, List.cons_append]
  conv_lhs => unfold unfoldLines
  rw [fresh, if_neg Bool.false_ne_true, begins]
  show (unfoldLines _ (f.more ++ rest) >>= fun fields => pure (pending.toList ++ fields)) = _
  rw [unfoldLines_continued proper.continued, value]
  cases unfoldLines (some (f.name, f.value)) rest <;> rfl

/-- Folded fields are read one after the other. -/
theorem unfoldLines_flatMap {fs : List FoldedField} (proper : ∀ f ∈ fs, f.IsProper)
    (pending : Option (Text × Text)) :
    unfoldLines pending (fs.flatMap FoldedField.lines) =
      .ok (pending.toList ++ fs.map fun f => (f.name, f.value)) := by
  induction fs generalizing pending with
  | nil => simp [unfoldLines]
  | cons f fs ih =>
    rw [List.forall_mem_cons] at proper
    rw [List.flatMap_cons, unfoldLines_append proper.1, ih proper.2]
    rfl

/-- Lines that are read are continuation lines of the field that is pending, and then folded
fields. -/
theorem exists_folded {pending : Option (Text × Text)} {lines : List Text}
    {entries : List (Text × Text)} (e : unfoldLines pending lines = .ok entries) :
    ∃ (more : List Text) (fs : List FoldedField), lines = more ++ fs.flatMap FoldedField.lines ∧
      (∀ line ∈ more, isContinuation line = true) ∧ (pending = none → more = []) ∧
      ∀ f ∈ fs, f.IsProper := by
  induction lines generalizing pending entries with
  | nil => exact ⟨[], [], rfl, by simp, fun _ => rfl, by simp⟩
  | cons line lines ih =>
    unfold unfoldLines at e
    split at e
    · next continued =>
      cases pending with
      | none => cases e
      | some entry =>
        obtain ⟨more, fs, rfl, all, -, proper⟩ := ih e
        exact ⟨line :: more, fs, rfl, List.forall_mem_cons.2 ⟨continued, all⟩, nofun, proper⟩
    · obtain ⟨⟨name, value⟩, begins, e⟩ := bind_eq_ok_iff.1 e
      obtain ⟨others, read, -⟩ := bind_eq_ok_iff.1 e
      obtain ⟨opening, rfl, label, -⟩ := splitLine_eq_ok_iff.1 begins
      obtain ⟨more, fs, rfl, all, -, proper⟩ := ih read
      exact ⟨[], ⟨name, opening, more⟩ :: fs, rfl, by simp, fun _ => rfl,
        List.forall_mem_cons.2 ⟨⟨label, all⟩, proper⟩⟩

/-- The lines that are read are folded fields, and their names and values are what is read. -/
theorem parse_eq_ok_iff {lines : List Text} {h : Header} :
    parse lines = .ok h ↔
      ∃ fs : List FoldedField, lines = fs.flatMap FoldedField.lines ∧ (∀ f ∈ fs, f.IsProper) ∧
        h = ⟨gather (fs.map fun f => (f.name, [f.value])), false, fs.length⟩ := by
  have read : ∀ fs : List FoldedField, (∀ f ∈ fs, f.IsProper) →
      parse (fs.flatMap FoldedField.lines) =
        .ok ⟨gather (fs.map fun f => (f.name, [f.value])), false, fs.length⟩ := by
    intro fs proper
    unfold parse
    rw [unfoldLines_flatMap proper]
    simp [bind, Except.bind, pure, Except.pure, ofFields, Function.comp_def]
  constructor
  · intro e
    obtain ⟨entries, unfolded, -⟩ := bind_eq_ok_iff.1 e
    obtain ⟨more, fs, whole, -, none, proper⟩ := exists_folded unfolded
    rw [none rfl, List.nil_append] at whole
    subst whole
    rw [read fs proper] at e
    cases e
    exact ⟨fs, rfl, proper, rfl⟩
  · rintro ⟨fs, rfl, proper, rfl⟩
    exact read fs proper

/-- The line goes on with a field, or begins one. -/
def IsFieldLine (line : Text) : Prop :=
  isContinuation line = true ∨
    ∃ name opening : Text, line = name ++ CodePoint.ofChar ':' :: opening ∧ FieldName.IsLabel name

/-- Lines that go on with a field or begin one are read, if there is a field to go on with. -/
theorem exists_unfoldLines {lines : List Text} (all : ∀ line ∈ lines, IsFieldLine line)
    {pending : Option (Text × Text)}
    (first : pending = none → ∀ line, lines.head? = some line → isContinuation line = false) :
    ∃ entries, unfoldLines pending lines = .ok entries := by
  induction lines generalizing pending with
  | nil => exact ⟨_, rfl⟩
  | cons line lines ih =>
    rw [List.forall_mem_cons] at all
    unfold unfoldLines
    by_cases continued : isContinuation line = true
    · rw [if_pos continued]
      cases pending with
      | none => rw [first rfl line rfl] at continued; cases continued
      | some entry => exact ih all.2 nofun
    · rw [if_neg continued]
      obtain ⟨name, opening, whole, label⟩ := all.1.resolve_left continued
      obtain ⟨entries, read⟩ :
          ∃ entries, unfoldLines (some (name, opening.trim)) lines = .ok entries := ih all.2 nofun
      exact ⟨pending.toList ++ entries, bind_eq_ok_iff.2 ⟨_,
        splitLine_eq_ok_iff.2 ⟨opening, whole, label, rfl⟩, bind_eq_ok_iff.2 ⟨_, read, rfl⟩⟩⟩

/-- A header is made of lines that go on with a field or begin one, the first of which begins
one. -/
theorem exists_parse_iff {lines : List Text} :
    (∃ h, parse lines = .ok h) ↔
      (∀ line, lines.head? = some line → isContinuation line = false) ∧
        ∀ line ∈ lines, IsFieldLine line := by
  constructor
  · rintro ⟨h, e⟩
    obtain ⟨fs, rfl, proper, -⟩ := parse_eq_ok_iff.1 e
    constructor
    · intro line first
      cases fs with
      | nil => cases first
      | cons f fs =>
        cases first
        exact isContinuation_append (proper f List.mem_cons_self).label _
    · intro line member
      obtain ⟨f, hf, member⟩ := List.mem_flatMap.1 member
      rcases List.mem_cons.1 member with rfl | member
      · exact .inr ⟨f.name, f.opening, rfl, (proper f hf).label⟩
      · exact .inl ((proper f hf).continued line member)
  · rintro ⟨first, all⟩
    obtain ⟨entries, read⟩ := exists_unfoldLines all fun _ => first
    exact ⟨_, bind_eq_ok_iff.2 ⟨entries, read, rfl⟩⟩

end Header

/-! ### The value of a folded field -/

namespace Text

/-- What some pieces add to the length of a text, each with a separator before it. -/
def added (separator : Text) : List Text → Nat
  | [] => 0
  | u :: us => separator.length + u.length + added separator us

theorem length_join_cons (separator t : Text) (ts : List Text) :
    (join separator (t :: ts)).length = t.length + added separator ts := by
  induction ts generalizing t with
  | nil => simp [join, added]
  | cons u ts ih =>
    rw [join, List.length_append, List.length_append, ih, added]
    omega

theorem added_filter_le (separator : Text) (us : List Text) :
    added separator (us.filter fun u => !u.isEmpty) ≤ added separator us := by
  induction us with
  | nil => exact Nat.le_refl 0
  | cons u us ih =>
    rw [List.filter_cons, added]
    split
    · rw [added]
      omega
    · omega

/-- An empty piece adds a separator. -/
theorem ne_nil_of_added_filter_eq {separator : Text} (visible : separator ≠ []) {us : List Text}
    (same : added separator us = added separator (us.filter fun u => !u.isEmpty)) :
    ∀ u ∈ us, u ≠ [] := by
  have width : 0 < separator.length := List.length_pos_iff.2 visible
  induction us with
  | nil => simp
  | cons u us ih =>
    have rest := added_filter_le separator us
    cases u with
    | nil =>
      rw [List.filter_cons_of_neg (by simp), added] at same
      omega
    | cons c u =>
      rw [List.filter_cons_of_pos (by simp), added, added] at same
      exact List.forall_mem_cons.2 ⟨List.cons_ne_nil c u, ih (by omega)⟩

/-- A joined text gets shorter when an empty piece is left out, the first one apart. -/
theorem join_filter_eq_iff {separator : Text} (visible : separator ≠ []) {t : Text} (ht : t ≠ [])
    (ts : List Text) :
    join separator (t :: ts) = join separator ((t :: ts).filter fun u => !u.isEmpty) ↔
      ∀ u ∈ t :: ts, u ≠ [] := by
  constructor
  · intro same
    have lengths := congrArg List.length same
    rw [List.filter_cons_of_pos (by simpa using ht), length_join_cons, length_join_cons] at lengths
    exact List.forall_mem_cons.2 ⟨ht, ne_nil_of_added_filter_eq visible (by omega)⟩
  · intro all
    rw [List.filter_eq_self.2 fun u hu => by simpa using all u hu]

end Text

namespace FoldedField

variable (f : FoldedField)

theorem isTrimmed_of_mem_core {piece : Text} (h : piece ∈ f.core) : piece.IsTrimmed := by
  obtain ⟨t, -, rfl⟩ := List.mem_map.1 ((List.dropWhile_suffix _).subset h)
  exact Text.isTrimmed_trim t

/-- The first of the pieces that are joined is not empty. -/
theorem ne_nil_of_head?_core {piece : Text} (h : f.core.head? = some piece) : piece ≠ [] := by
  have := List.head?_dropWhile_not List.isEmpty f.pieces
  rw [show f.pieces.dropWhile List.isEmpty = f.core from rfl, h] at this
  simpa using this

theorem filter_pieces :
    f.pieces.filter (fun piece => !piece.isEmpty) = f.core.filter fun piece => !piece.isEmpty := by
  have split : f.pieces = f.pieces.takeWhile List.isEmpty ++ f.core :=
    List.takeWhile_append_dropWhile.symm
  rw [split, List.filter_append, List.filter_eq_nil_iff.2 fun piece hpiece => ?_, List.nil_append]
  simpa using List.mem_takeWhile_imp hpiece

/-- The value has its pieces with single spaces between them exactly if no blank line comes after
the text has begun. -/
theorem value_eq_squeezed_iff : f.value = f.squeezed ↔ ∀ piece ∈ f.core, piece ≠ [] := by
  rw [value, squeezed, filter_pieces]
  cases pieces : f.core with
  | nil => simp
  | cons t ts =>
    exact Text.join_filter_eq_iff (by decide) (f.ne_nil_of_head?_core (by rw [pieces]; rfl)) ts

/-- The value has no blank at its ends exactly if the last line is not blank, or all are. -/
theorem trim_value_iff :
    f.value.trim = f.value ↔ ∀ piece, f.core.getLast? = some piece → piece ≠ [] := by
  have first : ∀ piece, f.core.head? = some piece → piece ≠ [] ∧ piece.IsTrimmed := fun piece h =>
    ⟨f.ne_nil_of_head?_core h, f.isTrimmed_of_mem_core (List.mem_of_head? h)⟩
  rw [Text.trim_eq_self_iff, value]
  constructor
  · -- with an empty last piece, the text ends with the space before it
    rintro whole piece last rfl
    obtain ⟨ts, pieces⟩ := List.getLast?_eq_some_iff.1 last
    by_cases single : ts = []
    · exact (first [] (by rw [pieces, single]; rfl)).1 rfl
    · rw [pieces, Text.join_concat _ single, List.append_nil] at whole
      exact absurd (whole.last ' ' List.getLast?_concat) (by decide)
  · exact fun last => Text.isTrimmed_join _ first fun piece h =>
      ⟨last piece h, f.isTrimmed_of_mem_core (List.mem_of_getLast? h)⟩

end FoldedField

namespace Header

/-- **Lines are unfolded into a header.** They make a header exactly if each goes on with a field or
begins one, and the first begins one. The lines are then folded fields, one after the other; the
header may be changed, has counted each of them, and holds under a name in any form the values of
the fields of that name, in order. Such a value is joined from the pieces of its lines, from the
first that is not empty on: it is what is left of the lines with single spaces in between exactly
if none of these is empty, and has no blank at its ends exactly if the last of them is not. -/
theorem parse_unfolds (lines : List Text) :
    ((∃ h, parse lines = .ok h) ↔
      (∀ line, lines.head? = some line → isContinuation line = false) ∧
        ∀ line ∈ lines, IsFieldLine line) ∧
    ∀ h, parse lines = .ok h →
      ∃ fs : List FoldedField, lines = fs.flatMap FoldedField.lines ∧ (∀ f ∈ fs, f.IsProper) ∧
        h = ⟨gather (fs.map fun f => (f.name, [f.value])), false, fs.length⟩ ∧
        (∀ name, h.values name =
          (fs.filter fun f => FieldName.canonical f.name = FieldName.canonical name).map
            FoldedField.value) ∧
        ∀ f ∈ fs, (f.value = f.squeezed ↔ ∀ piece ∈ f.core, piece ≠ []) ∧
          (f.value.trim = f.value ↔ ∀ piece, f.core.getLast? = some piece → piece ≠ []) := by
  refine ⟨exists_parse_iff, fun h e => ?_⟩
  obtain ⟨fs, whole, proper, rfl⟩ := parse_eq_ok_iff.1 e
  refine ⟨fs, whole, proper, rfl, fun name => ?_,
    fun f _ => ⟨f.value_eq_squeezed_iff, f.trim_value_iff⟩⟩
  show valuesOf (gather _) (FieldName.canonical name) = _
  rw [valuesOf_gather, List.filter_map, List.flatMap_map]
  exact List.flatMap_pure_eq_map _ _

/-- A blank continuation line leaves its space at the end of the value. -/
theorem parse_blank_continuation :
    ∃ h, parse ["Subject: a", " "] = .ok h ∧ h.values "Subject" = [Text.ofString "a "] ∧
      Text.trim "a " = "a" ∧ (FoldedField.mk "Subject" " a" [" "]).squeezed = "a" := by
  refine ⟨_, rfl, ?_⟩
  decide +kernel

end Header

end Mailroom
