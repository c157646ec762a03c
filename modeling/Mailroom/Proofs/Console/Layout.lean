import Mailroom.Console.Layout
import Mailroom.Proofs.Console.Cells
import Mailroom.Proofs.Text.Split
import Mathlib.Data.List.Basic
import Mathlib.Data.List.TakeDrop

/-!
# Lines that are not broken

* `Layout.flatten_pieces`, `Layout.flatten_wrapFrom`: breaking a line loses nothing;
* `Layout.countP_fill_le`: filling brings in nothing but spaces and ends of lines;
* `Layout.IsWhole`, `Layout.wrap_eq_self_iff`: the lines that are left whole;
* `Layout.fill_eq_self_iff`: the texts that are left as they are.
-/

namespace Mailroom.Layout

/-! ### Tabs -/

theorem countP_replicate_space {p : CodePoint → Bool} (space : p (CodePoint.ofChar ' ') = false)
    (n : Nat) : (List.replicate n (CodePoint.ofChar ' ')).countP p = 0 := by
  rw [List.countP_replicate, space]
  rfl

theorem countP_expandTabsFrom {p : CodePoint → Bool} (space : p (CodePoint.ofChar ' ') = false)
    (column : Nat) (parts : List Text) :
    (expandTabsFrom column parts).countP p = parts.flatten.countP p := by
  fun_induction expandTabsFrom column parts with
  | case1 => rfl
  | case2 => simp
  | case3 column part parts rest spaced reached count ih =>
    rw [List.countP_append, List.countP_append, List.countP_append, countP_replicate_space space, ih,
      List.flatten_cons, List.countP_append]
    simp [space]

theorem countP_expandTabs {p : CodePoint → Bool} (space : p (CodePoint.ofChar ' ') = false)
    (t : Text) :
    (expandTabs t).countP p = (t.splitOn (CodePoint.ofNat 0x09)).flatten.countP p :=
  countP_expandTabsFrom space 0 _

/-- Spaces come for tabs, and nothing else does. -/
theorem countP_expandTabs_le {p : CodePoint → Bool} (space : p (CodePoint.ofChar ' ') = false)
    (t : Text) : (expandTabs t).countP p ≤ t.countP p := by
  rw [countP_expandTabs space]
  conv_rhs => rw [← Text.join_splitOn (CodePoint.ofNat 0x09) t]
  exact (Text.flatten_sublist_join _ _).countP_le

/-- A code point that does not get more has been there before. -/
theorem mem_of_count_le {s t : Text} {c : CodePoint} (h : s.count c ≤ t.count c) (hc : c ∈ s) :
    c ∈ t :=
  List.count_pos_iff.1 (Nat.lt_of_lt_of_le (List.count_pos_iff.2 hc) h)

theorem mem_of_mem_expandTabs {t : Text} {c : CodePoint} (space : c ≠ CodePoint.ofChar ' ')
    (h : c ∈ expandTabs t) : c ∈ t :=
  mem_of_count_le (countP_expandTabs_le (by simpa using space.symm) t) h

theorem tab_not_mem_expandTabs (t : Text) : CodePoint.ofNat 0x09 ∉ expandTabs t := by
  intro mem
  have counted := countP_expandTabs (p := (· == CodePoint.ofNat 0x09)) (by decide) t
  obtain ⟨part, hpart, tab⟩ := List.mem_flatten.1 (mem_of_count_le (Nat.le_of_eq counted) mem)
  exact Text.not_mem_of_mem_splitOn hpart tab

theorem expandTabs_of_not_mem {t : Text} (h : CodePoint.ofNat 0x09 ∉ t) : expandTabs t = t := by
  rw [expandTabs, Text.splitOn_of_not_mem h]
  rfl

/-! ### Words -/

/-- The text ends in a blank. -/
def EndsBlank (t : Text) : Prop := ∃ c, t.getLast? = some c ∧ c.isBlank = true

theorem EndsBlank.endsFree {t : Text} (h : EndsBlank t) : t.EndsFree := by
  obtain ⟨d, hd, blank⟩ := h
  intro c hc
  cases hd.symm.trans hc
  by_contra joiner
  rw [Bool.not_eq_false] at joiner
  have same : d = CodePoint.ofNat 0x200D := CodePoint.ext (beq_iff_eq.1 joiner)
  rw [same] at blank
  revert blank
  decide

theorem EndsBlank.append {t : Text} (s : Text) (h : EndsBlank t) : EndsBlank (s ++ t) := by
  obtain ⟨c, hc, blank⟩ := h
  refine ⟨c, ?_, blank⟩
  rw [List.getLast?_append, hc]
  rfl

/-- The blanks at the beginning of a text and the words behind them are the text, and all words but
the last end in a blank. -/
theorem blanksAndPieces_spec (t : Text) :
    (blanksAndPieces t).1 ++ (blanksAndPieces t).2.flatten = t ∧
      (∀ c ∈ (blanksAndPieces t).1, c.isBlank = true) ∧
      ∀ word ∈ (blanksAndPieces t).2.dropLast, EndsBlank word := by
  induction t with
  | nil => exact ⟨rfl, nofun, nofun⟩
  | cons c t ih =>
    rw [blanksAndPieces]
    rcases parted : blanksAndPieces t with ⟨blanks, words⟩
    rw [parted] at ih
    obtain ⟨whole, blank, ends⟩ := ih
    dsimp only at whole blank ends ⊢
    by_cases first : c.isBlank = true
    · rw [if_pos first]
      exact ⟨congrArg (c :: ·) whole, List.forall_mem_cons.2 ⟨first, blank⟩, ends⟩
    rw [if_neg first]
    split
    · next word words =>
      -- no blank stands between the code point and the word
      refine ⟨congrArg (c :: ·) whole, nofun, ?_⟩
      cases words with
      | nil => exact nofun
      | cons word' words =>
        simp only [List.dropLast_cons_cons, List.forall_mem_cons] at ends ⊢
        exact ⟨ends.1.append [c], ends.2⟩
    · next apart =>
      refine ⟨congrArg (c :: ·) whole, nofun, ?_⟩
      cases words with
      | nil => exact nofun
      | cons word words =>
        simp only [List.dropLast_cons_cons, List.forall_mem_cons]
        refine ⟨?_, ends⟩
        have some_blank : blanks ≠ [] := fun h => apart word words h rfl
        exact ⟨_, List.getLast?_eq_some_getLast (by simp), by
          rw [List.getLast_cons some_blank]
          exact blank _ (List.getLast_mem some_blank)⟩

/-- The words of a line are the whole of it, and all but the last end in a blank. -/
theorem pieces_spec {t : Text} (words : pieces t ≠ []) :
    (pieces t).flatten = t ∧ ∀ word ∈ (pieces t).dropLast, EndsBlank word := by
  have spec := blanksAndPieces_spec t
  unfold pieces at words ⊢
  rcases parted : blanksAndPieces t with ⟨blanks, _ | ⟨word, words⟩⟩
  · rw [parted] at words
    exact absurd rfl words
  · rw [parted] at spec
    obtain ⟨whole, -, ends⟩ := spec
    refine ⟨by simpa using whole, ?_⟩
    cases words with
    | nil => exact nofun
    | cons word' words =>
      simp only [List.dropLast_cons_cons, List.forall_mem_cons] at ends ⊢
      exact ⟨ends.1.append blanks, ends.2⟩

/-! ### Breaking -/

theorem chopFrom_spec (width used : Nat) (pictures : List Text.Picture) :
    (chopFrom width used pictures).1 ++ (chopFrom width used pictures).2.flatten =
      pictures.flatMap (·.text) := by
  fun_induction chopFrom width used pictures with
  | case1 => rfl
  | case2 used picture pictures tooWide part parts chopped ih =>
    rw [chopped] at ih
    simpa using ih
  | case3 used picture pictures fits part parts chopped ih =>
    rw [chopped] at ih
    simpa using ih

theorem flatten_chop (width : Nat) (word : Text) : (chop width word).flatten = word := by
  have spec := chopFrom_spec width 0 word.pictures
  rw [Text.flatMap_pictures] at spec
  simpa [chop] using spec

theorem flatten_consLine (line : Text) (lines : List Text) :
    (consLine line lines).flatten = line ++ lines.flatten := by
  unfold consLine
  split
  · next empty => simp [List.isEmpty_iff.1 empty]
  · rfl

/-- Breaking a line loses nothing. -/
theorem flatten_wrapFrom (width : Nat) (line : Text) (used : Nat) (words : List Text) :
    (wrapFrom width line used words).flatten = line ++ words.flatten := by
  fun_induction wrapFrom width line used words with
  | case1 => simp
  | case2 => simp_all
  | case3 => simp_all
  | case4 line used word words needed tooWide long parts last ih =>
    have some_part : parts ≠ [] := List.cons_ne_nil _ _
    have last_part : last = parts.getLast some_part := by
      simp [last, List.getLast?_eq_some_getLast some_part]
    have parted : parts.dropLast.flatten ++ last = word := by
      have whole := congrArg List.flatten (List.dropLast_append_getLast some_part)
      rw [List.flatten_append, List.flatten_singleton, ← last_part] at whole
      exact whole.trans (flatten_chop width word)
    rw [flatten_consLine, List.flatten_append, ih, List.flatten_cons,
      ← List.append_assoc parts.dropLast.flatten, parted]

theorem wrapFrom_ne_nil (width : Nat) (line : Text) (used : Nat) (words : List Text) :
    wrapFrom width line used words ≠ [] := by
  fun_induction wrapFrom width line used words with
  | case1 => exact List.cons_ne_nil _ _
  | case2 => assumption
  | case3 => exact List.cons_ne_nil _ _
  | case4 line used word words needed tooWide long parts last ih =>
    unfold consLine
    split
    · exact List.append_ne_nil_of_right_ne_nil _ ih
    · exact List.cons_ne_nil _ _

theorem isPrefix_trimRight (t : Text) : t.trimRight <+: t := by
  unfold Text.trimRight Text.trimRightWhere
  rw [← List.reverse_suffix, List.reverse_reverse]
  exact List.dropWhile_suffix _

theorem columns_trimRight_le (word : Text) : word.trimRight.columns ≤ word.columns := by
  obtain ⟨r, hr⟩ := isPrefix_trimRight word
  conv_rhs => rw [← hr]
  exact Text.columns_le_append _ _

/-- Words that fit are put on one line. -/
theorem wrapFrom_of_fits {width used : Nat} {words : List Text}
    (ends : ∀ word ∈ words.dropLast, EndsBlank word) (line : Text)
    (fits : used + Text.columns words.flatten ≤ width) :
    wrapFrom width line used words = [line ++ words.flatten] := by
  induction words generalizing line used with
  | nil => simp [wrapFrom]
  | cons word words ih =>
    have needed := columns_trimRight_le word
    have begins := Text.columns_le_append word words.flatten
    rw [List.flatten_cons] at fits ⊢
    rw [wrapFrom, if_pos (by omega)]
    cases words with
    | nil => simp [wrapFrom]
    | cons word' words =>
      rw [List.dropLast_cons_cons, List.forall_mem_cons] at ends
      have apart := Text.columns_add_le_append ends.1.endsFree (word' :: words).flatten
      rw [ih ends.2 (line ++ word) (by omega), List.append_assoc]

/-! ### Cutting -/

/-- Lines that bring nothing in one by one do not together. -/
theorem countP_flatMap_le {p : CodePoint → Bool} {f : Text → Text}
    (h : ∀ line, (f line).countP p ≤ line.countP p) (lines : List Text) :
    (lines.flatMap f).countP p ≤ lines.flatten.countP p := by
  induction lines with
  | nil => exact Nat.le_refl _
  | cons line lines ih =>
    rw [List.flatMap_cons, List.flatten_cons, List.countP_append, List.countP_append]
    exact Nat.add_le_add (h line) ih

theorem countP_takeColumns_le {p : CodePoint → Bool} (space : p (CodePoint.ofChar ' ') = false)
    (width : Nat) (pictures : List Text.Picture) :
    (takeColumns width pictures).countP p ≤ (pictures.flatMap (·.text)).countP p := by
  fun_induction takeColumns width pictures with
  | case1 => exact Nat.le_refl _
  | case2 => exact Nat.zero_le _
  | case3 width picture pictures some_column fits ih =>
    rw [List.flatMap_cons, List.countP_append, List.countP_append]
    omega
  | case4 => simp [space]

theorem length_takeColumns_le (width : Nat) {pictures : List Text.Picture}
    (parts : ∀ picture ∈ pictures, picture.IsPart) :
    (takeColumns width pictures).length ≤ (pictures.flatMap (·.text)).length := by
  fun_induction takeColumns width pictures with
  | case1 => exact Nat.le_refl _
  | case2 => exact Nat.zero_le _
  | case3 width picture pictures some_column fits ih =>
    rw [List.forall_mem_cons] at parts
    rw [List.flatMap_cons, List.length_append, List.length_append]
    have := ih parts.2
    omega
  | case4 width picture pictures =>
    have := List.length_pos_of_ne_nil (parts picture List.mem_cons_self).nonempty
    rw [List.flatMap_cons, List.length_append, List.length_singleton]
    omega

/-- Only what fits is taken whole. -/
theorem columnsOf_le_of_takeColumns {width : Nat} {pictures : List Text.Picture}
    (parts : ∀ picture ∈ pictures, picture.IsPart)
    (whole : takeColumns width pictures = pictures.flatMap (·.text)) :
    Text.columnsOf pictures ≤ width := by
  fun_induction takeColumns width pictures with
  | case1 => exact Nat.zero_le _
  | case2 picture pictures =>
    rw [List.flatMap_cons, List.nil_eq, List.append_eq_nil_iff] at whole
    exact absurd whole.1 (parts picture List.mem_cons_self).nonempty
  | case3 width picture pictures some_column fits ih =>
    rw [List.forall_mem_cons] at parts
    rw [List.flatMap_cons, List.append_cancel_left_eq] at whole
    have := ih parts.2 whole
    rw [Text.columnsOf_cons]
    omega
  | case4 width picture pictures some_column tooWide =>
    -- a space that takes the place of a part is narrower than that
    obtain ⟨nonempty, single⟩ := parts picture List.mem_cons_self
    rw [List.flatMap_cons] at whole
    have space : picture.text = [CodePoint.ofChar ' '] :=
      (List.singleton_eq_append_iff.1 whole).resolve_left (fun h => nonempty h.1) |>.1
    have narrow : picture.columns = 1 := single _ space
    omega

section

variable (width : Nat) (t : Text)

theorem countP_crop_le {p : CodePoint → Bool} (space : p (CodePoint.ofChar ' ') = false) :
    (crop width t).countP p ≤ t.countP p := by
  unfold crop
  split
  · exact Nat.le_refl _
  · conv_rhs => rw [← Text.flatMap_pictures t]
    exact countP_takeColumns_le space width t.pictures

theorem length_crop_le : (crop width t).length ≤ t.length := by
  unfold crop
  split
  · exact Nat.le_refl _
  · conv_rhs => rw [← Text.flatMap_pictures t]
    exact length_takeColumns_le width (Text.isPart_of_mem_pictures t)

theorem crop_eq_self_iff (free : t.StartsFree) : crop width t = t ↔ t.columns ≤ width := by
  unfold crop
  constructor
  · intro same
    by_contra tooWide
    rw [if_neg tooWide] at same
    refine tooWide ?_
    rw [← Text.columnsOf_pictures free]
    exact columnsOf_le_of_takeColumns (Text.isPart_of_mem_pictures t)
      (same.trans (Text.flatMap_pictures t).symm)
  · exact fun fits => if_pos fits

theorem withoutExcess_sublist : (withoutExcess width t).Sublist t := List.take_sublist _ _

theorem withoutExcess_eq_self_iff :
    withoutExcess width t = t ↔ t.length ≤ width ∨ t.trimRight = t := by
  have shorter := (isPrefix_trimRight t).length_le
  have unblank : t.trimRight = t ↔ t.trimRight.length = t.length :=
    ⟨congrArg List.length, (isPrefix_trimRight t).eq_of_length⟩
  rw [withoutExcess, List.take_eq_self_iff, unblank]
  omega

/-! ### Whole lines -/

/-- A line is left whole: it fits, together with the blanks at its end; or it begins with a joiner,
so that its parts are measured in another way than the line. -/
inductive IsWhole (width : Nat) (t : Text) : Prop
  | fits (columns : t.columns ≤ width) (room : t.length ≤ width ∨ t.trimRight = t)
  | joined (joined : ¬ t.StartsFree) (whole : wrap width t = [t])

/-- The lines of a text before any of them is cut. -/
def linesOf (width : Nat) (t : Text) : List Text :=
  match pieces t with
  | [] => [t]
  | words => wrapFrom width [] 0 words

theorem flatten_linesOf : (linesOf width t).flatten = t := by
  unfold linesOf
  split
  · simp
  · next some_word =>
    rw [flatten_wrapFrom, List.nil_append]
    exact (pieces_spec some_word).1

theorem linesOf_ne_nil : linesOf width t ≠ [] := by
  unfold linesOf
  split
  · exact List.cons_ne_nil _ _
  · exact wrapFrom_ne_nil width [] 0 _

theorem wrap_eq : wrap width t = (linesOf width t).map fun line =>
    crop width (withoutExcess width line) := rfl

theorem wrap_ne_nil : wrap width t ≠ [] := by
  rw [wrap_eq]
  simpa using linesOf_ne_nil width t

theorem countP_wrap_le {p : CodePoint → Bool} (space : p (CodePoint.ofChar ' ') = false) :
    (wrap width t).flatten.countP p ≤ t.countP p := by
  have each (line : Text) : (crop width (withoutExcess width line)).countP p ≤ line.countP p :=
    Nat.le_trans (countP_crop_le width _ space) (withoutExcess_sublist width line).countP_le
  conv_rhs => rw [← flatten_linesOf width t]
  rw [wrap_eq, ← List.flatMap_def]
  exact countP_flatMap_le each (linesOf width t)

variable {t} in
theorem mem_of_mem_wrap {c : CodePoint} (space : c ≠ CodePoint.ofChar ' ')
    (h : c ∈ (wrap width t).flatten) : c ∈ t :=
  mem_of_count_le (countP_wrap_le width t (by simpa using space.symm)) h

theorem linesOf_of_fits (fits : t.columns ≤ width) : linesOf width t = [t] := by
  unfold linesOf
  split
  · rfl
  · next some_word =>
    obtain ⟨whole, ends⟩ := pieces_spec some_word
    rw [wrapFrom_of_fits ends [] (by rwa [whole, Nat.zero_add]), whole, List.nil_append]

/-- **The lines that are left whole.** -/
theorem wrap_eq_self_iff : wrap width t = [t] ↔ IsWhole width t := by
  constructor
  · intro same
    by_cases free : t.StartsFree
    · rw [wrap_eq] at same
      obtain ⟨line, single, cut⟩ := List.map_eq_singleton_iff.1 same
      obtain rfl : line = t := by
        have whole := flatten_linesOf width t
        rwa [single, List.flatten_singleton] at whole
      -- nothing can be missing if the length is the same
      have longEnough : line.length ≤ (withoutExcess width line).length := by
        conv_lhs => rw [← cut]
        exact length_crop_le width _
      have unexcessive : withoutExcess width line = line :=
        (withoutExcess_sublist width line).eq_of_length_le longEnough
      rw [unexcessive, crop_eq_self_iff width line free] at cut
      exact .fits cut ((withoutExcess_eq_self_iff width line).1 unexcessive)
    · exact .joined free same
  · rintro (⟨columns, room⟩ | ⟨-, whole⟩)
    · rw [wrap_eq, linesOf_of_fits width t columns, List.map_singleton,
        (withoutExcess_eq_self_iff width t).2 room, crop, if_pos columns]
    · exact whole

end

/-! ### Whole texts -/

/-- Filling brings in nothing but spaces and ends of lines. -/
theorem countP_fill_le {p : CodePoint → Bool} (space : p (CodePoint.ofChar ' ') = false)
    (lineEnd : p (CodePoint.ofNat 0x0A) = false) (width : Nat) (t : Text) :
    (fill width t).countP p ≤ t.countP p := by
  have each (line : Text) : (wrap width (expandTabs line)).flatten.countP p ≤ line.countP p :=
    Nat.le_trans (countP_wrap_le width _ space) (countP_expandTabs_le space line)
  rw [fill, Text.countP_join (by simp [lineEnd]), List.flatMap_def, List.flatten_flatten,
    List.map_map, ← List.flatMap_def]
  conv_rhs => rw [← Text.join_splitOn (CodePoint.ofNat 0x0A) t, Text.countP_join (by simp [lineEnd])]
  exact countP_flatMap_le each _

theorem flatMap_eq_self_iff {α : Type} {f : α → List α} (some_value : ∀ a, f a ≠ [])
    (as : List α) : as.flatMap f = as ↔ ∀ a ∈ as, f a = [a] := by
  have longer (as : List α) : as.length ≤ (as.flatMap f).length := by
    induction as with
    | nil => exact Nat.le_refl _
    | cons a as ih =>
      have := List.length_pos_of_ne_nil (some_value a)
      rw [List.flatMap_cons, List.length_append, List.length_cons]
      omega
  induction as with
  | nil => simp
  | cons a as ih =>
    rw [List.flatMap_cons, List.forall_mem_cons]
    constructor
    · intro same
      obtain ⟨b, bs, hb⟩ := List.exists_cons_of_ne_nil (some_value a)
      rw [hb, List.cons_append] at same
      obtain ⟨rfl, rest⟩ := List.cons.inj same
      have enough := longer as
      have lengths := congrArg List.length rest
      rw [List.length_append] at lengths
      obtain rfl : bs = [] := List.length_eq_zero_iff.1 (by omega)
      exact ⟨hb, ih.1 rest⟩
    · rintro ⟨single, others⟩
      rw [single, ih.2 others]
      rfl

/-- **The texts that are left as they are** have no tabs, and no lines that are too long. -/
theorem fill_eq_self_iff {width : Nat} {t : Text} :
    fill width t = t ↔ ∀ line ∈ t.splitOn (CodePoint.ofNat 0x0A),
      CodePoint.ofNat 0x09 ∉ line ∧ IsWhole width line := by
  have some_line (line : Text) : wrap width (expandTabs line) ≠ [] := wrap_ne_nil width _
  have left_whole : (t.splitOn (CodePoint.ofNat 0x0A)).flatMap
        (fun line => wrap width (expandTabs line)) = t.splitOn (CodePoint.ofNat 0x0A) ↔
      ∀ line ∈ t.splitOn (CodePoint.ofNat 0x0A),
        CodePoint.ofNat 0x09 ∉ line ∧ IsWhole width line := by
    rw [flatMap_eq_self_iff some_line]
    refine forall₂_congr fun line _ => ?_
    constructor
    · intro whole
      have untabbed : CodePoint.ofNat 0x09 ∉ line := by
        intro tab
        refine tab_not_mem_expandTabs line (mem_of_mem_wrap width (by decide) ?_)
        rwa [whole, List.flatten_singleton]
      rw [expandTabs_of_not_mem untabbed] at whole
      exact ⟨untabbed, (wrap_eq_self_iff width line).1 whole⟩
    · rintro ⟨untabbed, whole⟩
      rw [expandTabs_of_not_mem untabbed]
      exact (wrap_eq_self_iff width line).2 whole
  rw [← left_whole, fill]
  constructor
  · intro same
    conv_rhs => rw [← same]
    refine (Text.splitOn_join ?_ ?_).symm
    · obtain ⟨line, lines, h⟩ := List.exists_cons_of_ne_nil (Text.splitOn_ne_nil _ t)
      rw [h, List.flatMap_cons]
      exact List.append_ne_nil_of_left_ne_nil (some_line line) _
    · intro piece hpiece lineEnd
      obtain ⟨line, hline, hpiece⟩ := List.mem_flatMap.1 hpiece
      have expanded := mem_of_mem_wrap width (by decide) (List.mem_flatten.2 ⟨piece, hpiece, lineEnd⟩)
      exact Text.not_mem_of_mem_splitOn hline (mem_of_mem_expandTabs (by decide) expanded)
  · intro same
    rw [same, Text.join_splitOn]

end Mailroom.Layout
