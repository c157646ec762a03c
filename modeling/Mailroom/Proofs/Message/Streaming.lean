import Mathlib.Data.List.Basic
import Mathlib.Data.List.TakeWhile
import Mailroom.Message.Basic

/-!
# Messages that come in as a stream

A stream is read up to the line feed of each line, and the line ends of a message are looked for
only in what has been read. Both look for the dot that ends a message, each in its own lines.

* `Framing.EndsLine`: the lines of some octets are over, whatever comes next;
* `Framing.lines_append`: there the lines before and after are lines on their own;
* `Framing.untilDot_lines_beforeDot`: a stream is cut at a dot that ends its lines as well;
* `Email.readStream_eq_read`: a stream is read as its octets are, and nothing behind the dot counts.
-/

namespace Mailroom

namespace Framing

/-! ### Where lines are over -/

/-- The lines of some octets are over where others follow: the last of them is ended, and not by
half of a line end. -/
def EndsLine (before after : Octets) : Prop :=
  before = [] ∨ before.getLast? = some 0x0A ∨
    before.getLast? = some 0x0D ∧ after.head? ≠ some 0x0A

instance (before after : Octets) : Decidable (EndsLine before after) :=
  inferInstanceAs (Decidable (before = [] ∨ _))

variable {before after : Octets}

theorem EndsLine.of_cons {b : UInt8} (h : EndsLine (b :: before) after) :
    EndsLine before after := by
  cases before with
  | nil => exact .inl rfl
  | cons c before =>
    rw [EndsLine, List.getLast?_cons_cons] at h
    exact .inr (h.resolve_left (List.cons_ne_nil _ _))

theorem split_ne_nil (octets : Octets) : split octets ≠ [] := by
  fun_cases split octets <;> simp

theorem split_lf (rest : Octets) : split (0x0A :: rest) = [] :: split rest := by
  rw [split.eq_def]
  exact if_pos rfl

theorem split_cr {rest : Octets} (h : rest.head? ≠ some 0x0A) :
    split (0x0D :: rest) = [] :: split rest := by
  rw [split.eq_def]
  dsimp only
  rw [if_neg (by decide), if_pos (by decide)]
  cases rest with
  | nil => rfl
  | cons c rest =>
    have : ¬ c.toNat = 0x0A := fun hc => h (congrArg some (UInt8.toNat_inj.1 hc))
    exact if_neg this

/-- Both halves of a line end are one line end. -/
theorem split_crlf {rest : Octets} (h : rest.head? = some 0x0A) :
    split (0x0D :: rest) = split rest := by
  obtain ⟨rest, rfl⟩ := List.head?_eq_some_iff.1 h
  rw [split_lf, split.eq_def]
  rfl

/-- A line goes on with an octet that is no part of a line end. -/
theorem split_cons_of_ne {b : UInt8} (lf : b ≠ 0x0A) (cr : b ≠ 0x0D) (rest : Octets) :
    split (b :: rest) = (split rest).modifyHead (b :: ·) := by
  have lf : ¬ b.toNat = 0x0A := fun h => lf (UInt8.toNat_inj.1 h)
  have cr : ¬ b.toNat = 0x0D := fun h => cr (UInt8.toNat_inj.1 h)
  rw [split.eq_def]
  dsimp only
  rw [if_neg lf, if_neg cr]
  obtain ⟨line, lines, h⟩ := List.exists_cons_of_ne_nil (split_ne_nil rest)
  rw [h]
  rfl

/-- Where the lines of some octets are over, they come apart as they do on their own. -/
theorem split_append (ends : EndsLine before after) :
    ∃ ls, split before = ls ++ [[]] ∧ split (before ++ after) = ls ++ split after ∧
      (before ≠ [] → ls ≠ []) := by
  induction before with
  | nil => exact ⟨[], rfl, rfl, fun h => absurd rfl h⟩
  | cons b rest ih =>
    obtain ⟨ls, apart, apart', some_line⟩ := ih ends.of_cons
    by_cases lf : b = 0x0A
    · subst lf
      refine ⟨[] :: ls, ?_, ?_, fun _ => List.cons_ne_nil _ _⟩
      · rw [split_lf, apart, List.cons_append]
      · rw [List.cons_append, split_lf, apart', List.cons_append]
    by_cases cr : b = 0x0D
    · subst cr
      cases rest with
      | nil =>
        have whole : after.head? ≠ some 0x0A := by simpa [EndsLine] using ends
        exact ⟨[[]], split_cr (by simp), split_cr whole, fun _ => List.cons_ne_nil _ _⟩
      | cons c rest =>
        by_cases second : c = 0x0A
        · subst second
          refine ⟨ls, ?_, ?_, fun _ => some_line (List.cons_ne_nil _ _)⟩
          · rw [split_crlf rfl, apart]
          · rw [List.cons_append, split_crlf rfl, apart']
        · refine ⟨[] :: ls, ?_, ?_, fun _ => List.cons_ne_nil _ _⟩
          · rw [split_cr (by simpa using second), apart, List.cons_append]
          · rw [List.cons_append, split_cr (by simpa using second), apart', List.cons_append]
    · -- the line that the octet is in is over among those that follow it
      have more : rest ≠ [] := by
        rintro rfl
        simp [EndsLine, lf, cr] at ends
      obtain ⟨line, ls, rfl⟩ := List.exists_cons_of_ne_nil (some_line more)
      refine ⟨(b :: line) :: ls, ?_, ?_, fun _ => List.cons_ne_nil _ _⟩
      · rw [split_cons_of_ne lf cr, apart]
        rfl
      · rw [List.cons_append, split_cons_of_ne lf cr, apart']
        rfl

/-- Where the lines of some octets are over, those that follow have lines of their own. -/
theorem lines_append (ends : EndsLine before after) :
    lines (before ++ after) = lines before ++ lines after := by
  obtain ⟨ls, apart, apart', -⟩ := split_append ends
  have all : lines before = ls := by simp [lines, apart]
  rw [all, lines, apart', List.getLast?_append_of_ne_nil _ (split_ne_nil after),
    List.dropLast_append_of_ne_nil (split_ne_nil after), lines]
  exact (apply_ite (ls ++ ·) _ _ _).symm

/-! ### The dot that ends a stream -/

theorem untilDot_append_of_mem {ls : List Octets} (h : dot ∈ ls) (ms : List Octets) :
    untilDot (ls ++ ms) = untilDot ls := by
  induction ls with
  | nil => cases h
  | cons line ls ih =>
    unfold untilDot at ih ⊢
    rw [List.cons_append, List.takeWhile_cons, List.takeWhile_cons]
    split
    · next other =>
      rw [ih ((List.mem_cons.1 h).resolve_left (Ne.symm (by simpa using other)))]
    · rfl

theorem untilDot_append_of_not_mem {ls : List Octets} (h : dot ∉ ls) (ms : List Octets) :
    untilDot (ls ++ ms) = ls ++ untilDot ms :=
  List.takeWhile_append_of_pos fun _ hline => decide_eq_true fun e => h (e ▸ hline)

theorem untilDot_of_not_mem {ls : List Octets} (h : dot ∉ ls) : untilDot ls = ls := by
  simpa [untilDot] using untilDot_append_of_not_mem h []

/-- Octets that are none, or begin with a line end, begin with an empty line. -/
theorem exists_split_eq_nil_cons {rest : Octets} (h : ∀ b ∈ rest.head?, b = 0x0A ∨ b = 0x0D) :
    ∃ ls, split rest = [] :: ls := by
  cases rest with
  | nil => exact ⟨[], rfl⟩
  | cons b rest =>
    rcases h b rfl with rfl | rfl
    · exact ⟨_, split_lf rest⟩
    · by_cases second : rest.head? = some 0x0A
      · obtain ⟨rest, rfl⟩ := List.head?_eq_some_iff.1 second
        exact ⟨_, (split_crlf rfl).trans (split_lf rest)⟩
      · exact ⟨_, split_cr second⟩

/-- There is nothing before a dot that is a line of its own at the very beginning. -/
theorem untilDot_lines_dot_cons {rest : Octets} (h : ∀ b ∈ rest.head?, b = 0x0A ∨ b = 0x0D) :
    untilDot (lines (0x2E :: rest)) = [] := by
  obtain ⟨ls, apart⟩ := exists_split_eq_nil_cons h
  have first : split (0x2E :: rest) = dot :: ls := by
    rw [split_cons_of_ne (by decide) (by decide), apart]
    rfl
  obtain ⟨ms, all⟩ : ∃ ms, lines (0x2E :: rest) = dot :: ms := by
    rw [lines, first]
    cases ls with
    | nil => exact ⟨[], if_neg (by decide)⟩
    | cons line ls =>
      split
      · exact ⟨_, rfl⟩
      · exact ⟨_, rfl⟩
  rw [all, untilDot, List.takeWhile_cons_of_neg (by simp)]

/-- A line is what is left without its end, and that end. -/
theorem exists_eq_withoutEnd_append (line : Octets) :
    ∃ ending, line = withoutEnd line ++ ending ∧ ∀ b ∈ ending, b = 0x0A ∨ b = 0x0D := by
  let isEnd (b : UInt8) : Bool := b.toNat == 0x0A || b.toNat == 0x0D
  refine ⟨(line.reverse.takeWhile isEnd).reverse, ?_, fun b hb => ?_⟩
  · rw [withoutEnd, ← List.reverse_append, List.takeWhile_append_dropWhile, List.reverse_reverse]
  · have := List.mem_takeWhile_imp (List.mem_reverse.1 hb)
    simp only [isEnd, Bool.or_eq_true, beq_iff_eq] at this
    exact this.imp UInt8.toNat_inj.1 UInt8.toNat_inj.1

/-- All lines of a stream but the last end in a line feed. -/
theorem getLast?_of_streamLines {octets : Octets} {ls ms : List Octets}
    (h : streamLines octets = ls ++ ms) (more : ms ≠ []) :
    ∀ line ∈ ls, line.getLast? = some 0x0A := by
  induction octets generalizing ls with
  | nil =>
    rw [eq_comm, streamLines, List.append_eq_nil_iff] at h
    exact absurd h.2 more
  | cons b rest ih =>
    cases ls with
    | nil => exact fun line hline => (by cases hline)
    | cons first ls =>
      rw [streamLines] at h
      split at h
      · next lf =>
        rw [List.cons_append] at h
        obtain ⟨rfl, others⟩ := List.cons.inj h
        exact List.forall_mem_cons.2 ⟨congrArg some (UInt8.toNat_inj.1 lf), ih others⟩
      · split at h
        · next line lines whole =>
          rw [List.cons_append] at h
          obtain ⟨rfl, rfl⟩ := List.cons.inj h
          have others : ∀ l ∈ line :: ls, l.getLast? = some 0x0A := ih whole
          rw [List.forall_mem_cons] at others ⊢
          obtain ⟨c, line, rfl⟩ : ∃ c l, line = c :: l := by
            cases line with
            | nil => cases others.1
            | cons c line => exact ⟨c, line, rfl⟩
          exact others
        · rw [List.cons_append] at h
          exact absurd (List.append_eq_nil_iff.1 (List.cons.inj h).2.symm).2 more

theorem endsLine_flatten {ls : List Octets} (h : ∀ line ∈ ls, line.getLast? = some 0x0A)
    (after : Octets) : EndsLine ls.flatten after := by
  rcases List.eq_nil_or_concat ls with rfl | ⟨ls, line, rfl⟩
  · exact .inl rfl
  · refine .inr (.inl ?_)
    have last := h line (by simp)
    have some_octet : line ≠ [] := fun e => by rw [e] at last; cases last
    simp [List.getLast?_append_of_ne_nil _ some_octet, last]

/-- A stream is read whole, or up to a dot that stands between two ends of a line. -/
theorem beforeDot_cases (octets : Octets) :
    beforeDot octets = octets ∨
      ∃ rest, octets = beforeDot octets ++ 0x2E :: rest ∧
        EndsLine (beforeDot octets) (0x2E :: rest) ∧
        ∀ b ∈ rest.head?, b = 0x0A ∨ b = 0x0D := by
  let goesOn (line : Octets) : Bool := withoutEnd line ≠ dot
  have whole := List.takeWhile_append_dropWhile (p := goesOn) (l := streamLines octets)
  have flat := flatten_streamLines octets
  rw [← whole, List.flatten_append] at flat
  cases stops : (streamLines octets).dropWhile goesOn with
  | nil =>
    rw [stops, List.flatten_nil, List.append_nil] at flat
    exact .inl flat
  | cons line more =>
    have bare : withoutEnd line = dot := by
      have := List.head?_dropWhile_not goesOn (streamLines octets)
      rw [stops] at this
      simpa [goesOn] using this
    rw [stops] at whole flat
    obtain ⟨ending, hline, breaks⟩ := exists_eq_withoutEnd_append line
    rw [bare] at hline
    have ended := getLast?_of_streamLines whole.symm (List.cons_ne_nil _ _)
    refine .inr ⟨ending ++ more.flatten, ?_, endsLine_flatten ended _, ?_⟩
    · rw [List.flatten_cons, hline, List.append_assoc] at flat
      exact flat.symm
    · -- a line that is a dot and nothing else has no line feed, so it is the last of the stream
      cases ending with
      | cons b ending => exact fun c hc => breaks c (List.mem_of_mem_head? hc)
      | nil =>
        cases more with
        | nil => exact fun b hb => (by cases hb)
        | cons next more =>
          have cut : streamLines octets =
              ((streamLines octets).takeWhile goesOn ++ [line]) ++ next :: more := by
            rw [List.append_assoc]
            exact whole.symm
          have lf := getLast?_of_streamLines cut (List.cons_ne_nil _ _) line (by simp)
          rw [hline] at lf
          exact absurd lf (by decide)

/-- **A stream is cut at a dot that ends its lines as well**: the lines before a dot are the same in
what is read of it and in the whole. -/
theorem untilDot_lines_beforeDot (octets : Octets) :
    untilDot (lines (beforeDot octets)) = untilDot (lines octets) := by
  rcases beforeDot_cases octets with whole | ⟨rest, cut, ends, after⟩
  · rw [whole]
  · have apart := lines_append ends
    rw [← cut] at apart
    rw [apart]
    by_cases early : dot ∈ lines (beforeDot octets)
    · rw [untilDot_append_of_mem early]
    · rw [untilDot_append_of_not_mem early, untilDot_lines_dot_cons after,
        List.append_nil, untilDot_of_not_mem early]

end Framing

namespace Email

open Framing

/-- What is read depends on the lines before the dot alone. -/
theorem read_congr {ignoreDots ignoreDots' : Bool} {data data' : Octets}
    (same : (if ignoreDots then lines data else untilDot (lines data)) =
      if ignoreDots' then lines data' else untilDot (lines data')) :
    read ignoreDots data = read ignoreDots' data' := by
  unfold read
  dsimp only
  rw [same]

/-- **A stream is read as its octets are**, whether or not dots count, and whatever the ends of its
lines. Where they count, nothing behind the first line that is a dot makes a difference: what stands
before it is read as it would be if dots did not count. -/
theorem readStream_eq_read :
    (∀ (ignoreDots : Bool) (data : Octets), readStream ignoreDots data = read ignoreDots data) ∧
      ∀ before after : Octets,
        before = [] ∨ before.getLast? = some 0x0A ∨ before.getLast? = some 0x0D →
        dot ∉ lines before →
          read false (before ++ dot ++ 0x0A :: after) = read true before ∧
            readStream false (before ++ dot ++ 0x0A :: after) = read true before := by
  have streamed (ignoreDots : Bool) (data : Octets) :
      readStream ignoreDots data = read ignoreDots data := by
    unfold readStream
    cases ignoreDots with
    | true => rfl
    | false => exact read_congr (untilDot_lines_beforeDot data)
  refine ⟨streamed, fun before after ended none => ?_⟩
  have whole : read false (before ++ dot ++ 0x0A :: after) = read true before := by
    refine read_congr ?_
    have ends : EndsLine before (dot ++ 0x0A :: after) :=
      ended.imp_right (Or.imp_right fun cr => ⟨cr, by simp [dot]⟩)
    have nothing : untilDot (lines (dot ++ 0x0A :: after)) = [] :=
      untilDot_lines_dot_cons fun b hb => .inl (Option.mem_some.1 hb).symm
    simp only [Bool.false_eq_true, if_false, if_true]
    rw [List.append_assoc, lines_append ends, untilDot_append_of_not_mem none, nothing,
      List.append_nil]
  exact ⟨whole, (streamed _ _).trans whole⟩

/-- A message whose lines end in three ways, and what stands behind the dot after it. -/
theorem dotted_readStream :
    let before := Utf8.encodeDropping "From: a@b.c\rTo: x@y.org\r\n\n..\r"
    let after := Utf8.encodeDropping "To: nobody\n.\r\r\n"
    before.getLast? = some 0x0D ∧ dot ∉ lines before ∧
      readStream false (before ++ dot ++ 0x0A :: after) = read true before ∧
      (read true before).isOk = true := by
  intro before after
  have ended : before.getLast? = some 0x0D := by decide
  have none : dot ∉ lines before := by decide +kernel
  exact ⟨ended, none, (readStream_eq_read.2 before after (.inr (.inr ended)) none).2,
    by decide +kernel⟩

end Email

end Mailroom
