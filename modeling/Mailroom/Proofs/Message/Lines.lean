import Mailroom.Proofs.Header.History
import Mailroom.Proofs.Message.Intake
import Mailroom.Proofs.Message.Streaming

/-!
# Messages as they are written line by line

Lines may be written with any of three ends, and the last of them without one; they are read back
all the same, and the body keeps every line that follows the header.

* `Framing.LineEnd`, `Framing.IsWritten`: octets in which some lines are written;
* `Framing.lines_of_isWritten`: they have these lines, whichever end is used;
* `Octets.IsPaired`: carriage returns and line feeds occur in pairs only, as they do between joined
  lines;
* `Email.read_eq_ok_iff`: what is read of the lines of a message;
* `Email.read_of_isWritten`: a message that is written line by line is read line by line.
-/

namespace Mailroom

namespace Framing

/-! ### Lines and their ends -/

/-- The ways to end a line. -/
inductive LineEnd where
  | lf
  | cr
  | crlf
deriving DecidableEq

/-- The octets of a line end. -/
def LineEnd.octets : LineEnd → Octets
  | lf => [0x0A]
  | cr => [0x0D]
  | crlf => [0x0D, 0x0A]

/-- Octets in which lines are written one after the other, each with its end. The last line can do
without, unless it is empty. -/
inductive IsWritten (e : LineEnd) : List Octets → Octets → Prop
  | none : IsWritten e [] []
  | last {line : Octets} (some_octet : line ≠ []) : IsWritten e [line] line
  | ended (line : Octets) {ls : List Octets} {octets : Octets} (rest : IsWritten e ls octets) :
      IsWritten e (line :: ls) (line ++ e.octets ++ octets)

/-- A line goes on with octets that are no part of a line end. -/
theorem split_append_of_isUnbroken {line : Octets} (unbroken : line.IsUnbroken) (rest : Octets) :
    split (line ++ rest) = (split rest).modifyHead (line ++ ·) := by
  obtain ⟨first, others, hsplit⟩ := List.exists_cons_of_ne_nil (split_ne_nil rest)
  induction line with
  | nil => rw [List.nil_append, hsplit]; rfl
  | cons b line ih =>
    have hb := unbroken b List.mem_cons_self
    rw [List.cons_append, split_cons_of_ne hb.2 hb.1,
      ih fun c hc => unbroken c (List.mem_cons_of_mem b hc), hsplit]
    rfl

theorem lines_of_isUnbroken {line : Octets} (unbroken : line.IsUnbroken) (some_octet : line ≠ []) :
    lines line = [line] := by
  have apart : split line = [line] := by
    have := split_append_of_isUnbroken unbroken []
    simpa using this
  rw [lines, apart, if_neg (by simpa using some_octet)]

/-- A line with its end is one line, whichever end it is. -/
theorem lines_append_end {line : Octets} (unbroken : line.IsUnbroken) (e : LineEnd) :
    lines (line ++ e.octets) = [line] := by
  have apart : split (line ++ e.octets) = [line, []] := by
    have ended : split e.octets = [[], []] := by cases e <;> decide
    rw [split_append_of_isUnbroken unbroken, ended]
    simp
  rw [lines, apart]
  rfl

section

variable {e : LineEnd} {ls : List Octets} {octets : Octets}

/-- What follows an end does not begin with the line feed that the end may lack. -/
theorem IsWritten.head?_ne (written : IsWritten .cr ls octets)
    (unbroken : ∀ line ∈ ls, line.IsUnbroken) : octets.head? ≠ some 0x0A := by
  have first {line : Octets} (h : line ∈ ls) (rest : Octets) (hrest : rest.head? ≠ some 0x0A) :
      (line ++ rest).head? ≠ some 0x0A := by
    cases line with
    | nil => exact hrest
    | cons b line =>
      intro feed
      exact (unbroken _ h b List.mem_cons_self).2 (Option.some.inj feed)
  cases written with
  | none => simp
  | last some_octet => simpa using first List.mem_cons_self [] (by simp)
  | ended line rest =>
    rw [List.append_assoc]
    exact first List.mem_cons_self _ (by simp [LineEnd.octets])

/-- After an end, lines are over. -/
theorem endsLine_append_end (line : Octets) (whole : e = .cr → octets.head? ≠ some 0x0A) :
    EndsLine (line ++ e.octets) octets := by
  cases e with
  | lf => exact .inr (.inl (by simp [LineEnd.octets]))
  | cr => exact .inr (.inr ⟨by simp [LineEnd.octets], whole rfl⟩)
  | crlf => exact .inr (.inl (by simp [LineEnd.octets]))

/-- **Lines are read as they have been written**, whichever end they have: none is lost, and none
is taken for two. -/
theorem lines_of_isWritten (written : IsWritten e ls octets)
    (unbroken : ∀ line ∈ ls, line.IsUnbroken) : lines octets = ls := by
  induction written with
  | none => rfl
  | last some_octet => exact lines_of_isUnbroken (unbroken _ List.mem_cons_self) some_octet
  | @ended line ls octets rest ih =>
    rw [List.forall_mem_cons] at unbroken
    have apart : EndsLine (line ++ e.octets) octets := by
      refine endsLine_append_end line fun isCr => ?_
      subst isCr
      exact rest.head?_ne unbroken.2
    rw [lines_append apart, lines_append_end unbroken.1, ih unbroken.2]
    rfl

end

/-! ### The places of the dot and the empty line -/

theorem takeWhile_ne_eq_take (a : Octets) (ls : List Octets) :
    ls.takeWhile (fun line => decide (line ≠ a)) = ls.take (ls.idxOf a) := by
  induction ls with
  | nil => rfl
  | cons line ls ih =>
    by_cases h : line = a
    · simp [h]
    · simp only [ne_eq, decide_not] at ih
      simp [h, ih, List.idxOf_cons_ne ls h]

theorem dropWhile_ne_eq_drop (a : Octets) (ls : List Octets) :
    ls.dropWhile (fun line => decide (line ≠ a)) = ls.drop (ls.idxOf a) := by
  have whole := List.takeWhile_append_dropWhile (p := fun line => decide (line ≠ a)) (l := ls)
  rw [takeWhile_ne_eq_take] at whole
  exact List.append_cancel_left (whole.trans (List.take_append_drop _ _).symm)

/-- The header ends before the first empty line, and the body begins after it. -/
theorem headAndBody_eq (ls : List Octets) :
    headAndBody ls = (ls.take (ls.idxOf []), join (ls.drop (ls.idxOf [] + 1))) := by
  unfold headAndBody
  rw [takeWhile_ne_eq_take, dropWhile_ne_eq_drop, List.drop_drop]

theorem untilDot_eq_take (ls : List Octets) : untilDot ls = ls.take (ls.idxOf dot) :=
  takeWhile_ne_eq_take dot ls

end Framing

/-! ### Breaks in pairs -/

namespace Octets

/-- Every carriage return has a line feed behind it, and every line feed a carriage return before
it. -/
def IsPaired (octets : Octets) : Prop :=
  ∀ before after, (octets = before ++ 0x0D :: after → after.head? = some 0x0A) ∧
    (octets = before ++ 0x0A :: after → before.getLast? = some 0x0D)

theorem isPaired_of_isUnbroken {octets : Octets} (unbroken : octets.IsUnbroken) :
    octets.IsPaired := by
  refine fun before after => ⟨fun h => ?_, fun h => ?_⟩
  · exact absurd rfl (unbroken 0x0D (by simp [h])).1
  · exact absurd rfl (unbroken 0x0A (by simp [h])).2

theorem IsPaired.cons {octets : Octets} (paired : octets.IsPaired) {b : UInt8} (cr : b ≠ 0x0D)
    (lf : b ≠ 0x0A) : IsPaired (b :: octets) := by
  refine fun before after => ⟨fun h => ?_, fun h => ?_⟩
  · cases before with
    | nil => exact absurd (List.cons.inj h).1 cr
    | cons c before => exact (paired before after).1 (List.cons.inj h).2
  · cases before with
    | nil => exact absurd (List.cons.inj h).1 lf
    | cons c before =>
      have := (paired before after).2 (List.cons.inj h).2
      rw [List.getLast?_cons, this]
      rfl

theorem IsPaired.crlf {octets : Octets} (paired : octets.IsPaired) :
    IsPaired (0x0D :: 0x0A :: octets) := by
  refine fun before after => ⟨fun h => ?_, fun h => ?_⟩
  · match before, h with
    | [], h => simp [← (List.cons.inj h).2]
    | [c], h => simp at h
    | c :: d :: before, h =>
      exact (paired before after).1 (List.cons.inj (List.cons.inj h).2).2
  · match before, h with
    | [], h => simp at h
    | [c], h => simp [← (List.cons.inj h).1]
    | c :: d :: before, h =>
      have := (paired before after).2 (List.cons.inj (List.cons.inj h).2).2
      rw [List.getLast?_cons_cons, List.getLast?_cons, this]
      rfl

/-- Between joined lines, breaks are in pairs. -/
theorem isPaired_join {lines : List Octets} (unbroken : ∀ line ∈ lines, Octets.IsUnbroken line) :
    IsPaired (Framing.join lines) := by
  induction lines with
  | nil => exact isPaired_of_isUnbroken fun b hb => (by cases hb)
  | cons line lines ih =>
    rw [List.forall_mem_cons] at unbroken
    cases lines with
    | nil =>
      rw [show Framing.join [line] = line by simp [Framing.join, List.intercalate]]
      exact isPaired_of_isUnbroken unbroken.1
    | cons next lines =>
      rw [Framing.join_cons_cons]
      have hline := unbroken.1
      have paired := (ih unbroken.2).crlf
      -- the octets of the line are put before the pair one by one
      induction line with
      | nil => exact paired
      | cons b line ihline =>
        have hb := hline b List.mem_cons_self
        have shorter : Octets.IsUnbroken line := fun c hc => hline c (List.mem_cons_of_mem b hc)
        exact IsPaired.cons (ihline ⟨shorter, unbroken.2⟩ shorter) hb.1 hb.2

end Octets

/-! ### Reading -/

/-- A field fails to give addresses exactly if it is there, not blank, and cannot be read. -/
theorem Header.exists_addresses_eq_error_iff {h : Header} {name : Text} :
    (∃ failure, h.addresses name = .error failure) ↔
      h.contains name = true ∧ (h.first name).isBlank = false ∧
        ∃ failure, AddressList.parse (h.first name) = .error failure := by
  rw [contains_iff_valuesOf_ne_nil, first_eq, addresses_eq]
  cases valuesOf h.fields (FieldName.canonical name) with
  | nil => simp
  | cons value values =>
    by_cases blank : value.isBlank = true
    · simp [blank]
    · simp [blank]

namespace Email

open Framing

theorem checkAddresses_eq_ok_iff {e : Email} :
    e.checkAddresses = .ok () ↔ ∀ field ∈ addressFields, ∃ l, e.header.addresses field = .ok l := by
  unfold checkAddresses
  rw [List.forM_eq_forM]
  induction addressFields with
  | nil => exact iff_of_true rfl fun _ hmem => (by cases hmem)
  | cons field fields ih =>
    rw [List.forM_cons, bind_eq_ok_iff, List.forall_mem_cons, ← ih]
    constructor
    · rintro ⟨⟨⟩, first, others⟩
      obtain ⟨l, parses, -⟩ := map_eq_ok_iff.1 first
      exact ⟨⟨l, addresses_eq_ok_iff.1 parses⟩, others⟩
    · rintro ⟨⟨l, parses⟩, others⟩
      exact ⟨(), map_eq_ok_iff.2 ⟨l, addresses_eq_ok_iff.2 parses, rfl⟩, others⟩

/-- **What is read of a message**: the header of the lines before the first empty one, and the lines
after it as the body. All address fields have to be readable. -/
theorem read_eq_ok_iff {ignoreDots : Bool} {data : Octets} {e : Email} :
    read ignoreDots data = .ok e ↔
      let kept := if ignoreDots then lines data else (lines data).take ((lines data).idxOf dot)
      ∃ header, Header.parse ((kept.take (kept.idxOf [])).map Utf8.decodeKeeping) = .ok header ∧
        (∀ field ∈ addressFields, ∃ l, header.addresses field = .ok l) ∧
        e = ofParts header (join (kept.drop (kept.idxOf [] + 1))) := by
  unfold read
  dsimp only
  rw [untilDot_eq_take]
  generalize (if ignoreDots then lines data
    else (lines data).take ((lines data).idxOf dot)) = kept
  rw [headAndBody_eq]
  constructor
  · intro h
    obtain ⟨header, parses, h⟩ := bind_eq_ok_iff.1 h
    obtain ⟨⟨⟩, checked, h⟩ := bind_eq_ok_iff.1 h
    cases h
    exact ⟨header, mapError_eq_ok_iff.1 parses, checkAddresses_eq_ok_iff.1 checked, rfl⟩
  · rintro ⟨header, parses, readable, rfl⟩
    refine bind_eq_ok_iff.2 ⟨header, mapError_eq_ok_iff.2 parses, bind_eq_ok_iff.2 ⟨(), ?_, rfl⟩⟩
    exact checkAddresses_eq_ok_iff.2 readable

/-- **A message that is written line by line is read line by line**, whichever end the lines have
and whether or not the last has one. Only the lines before the dot count, if dots count. Reading
fails exactly if the lines before the first empty one are no header, or an address field of it is
there, not blank, and cannot be read. If it does not fail, the lines after the first empty one are
the body: its breaks are in pairs, and where it is cut at these, every line is found again. -/
theorem read_of_isWritten {e : LineEnd} {ls : List Octets} {data : Octets}
    (unbroken : ∀ line ∈ ls, line.IsUnbroken) (written : IsWritten e ls data)
    (ignoreDots : Bool) :
    let kept := if ignoreDots then ls else ls.take (ls.idxOf dot)
    let head := (kept.take (kept.idxOf [])).map Utf8.decodeKeeping
    let rest := kept.drop (kept.idxOf [] + 1)
    ((∃ failure, read ignoreDots data = .error failure) ↔
        (∃ fault, Header.parse head = .error fault) ∨
          ∃ header, Header.parse head = .ok header ∧ ∃ field ∈ addressFields,
            header.contains field = true ∧ (header.first field).isBlank = false ∧
              ∃ failure, AddressList.parse (header.first field) = .error failure) ∧
      ∀ email, read ignoreDots data = .ok email →
        (∃ header, Header.parse head = .ok header ∧ email = ofParts header (join rest)) ∧
          ([] ∉ kept → email.message = []) ∧ email.message.IsPaired ∧
          (rest ≠ [] → crlfLines email.message = rest) := by
  intro kept head rest
  have reads {email : Email} : read ignoreDots data = .ok email ↔
      ∃ header, Header.parse head = .ok header ∧
        (∀ field ∈ addressFields, ∃ l, header.addresses field = .ok l) ∧
        email = ofParts header (join rest) := by
    rw [read_eq_ok_iff, lines_of_isWritten written unbroken]
  have sub : ∀ line ∈ rest, line ∈ ls := by
    intro line hline
    have hkept : line ∈ kept := List.mem_of_mem_drop hline
    unfold kept at hkept
    split at hkept
    · exact hkept
    · exact List.mem_of_mem_take hkept
  have unbroken_rest : ∀ line ∈ rest, line.IsUnbroken := fun line h => unbroken line (sub line h)
  constructor
  · simp only [← Header.exists_addresses_eq_error_iff]
    constructor
    · rintro ⟨failure, fails⟩
      cases parses : Header.parse head with
      | error fault => exact .inl ⟨fault, rfl⟩
      | ok header =>
        refine .inr ⟨header, rfl, ?_⟩
        by_contra readable
        have readable : ∀ field ∈ addressFields, ∃ l, header.addresses field = .ok l := by
          intro field hfield
          cases found : header.addresses field with
          | error failure => exact absurd ⟨field, hfield, failure, found⟩ readable
          | ok l => exact ⟨l, rfl⟩
        rw [reads.2 ⟨header, parses, readable, rfl⟩] at fails
        cases fails
    · intro unreadable
      cases reading : read ignoreDots data with
      | error failure => exact ⟨failure, rfl⟩
      | ok email =>
        obtain ⟨header, parses, readable, -⟩ := reads.1 reading
        rcases unreadable with ⟨fault, fails⟩ | ⟨header', parses', field, hfield, failure, fails⟩
        · rw [parses] at fails
          cases fails
        · rw [parses, Except.ok.injEq] at parses'
          obtain ⟨l, found⟩ := readable field hfield
          rw [parses', fails] at found
          cases found
  · intro email reading
    obtain ⟨header, parses, -, rfl⟩ := reads.1 reading
    refine ⟨⟨header, parses, rfl⟩, fun headerOnly => ?_, Octets.isPaired_join unbroken_rest,
      fun some_line => ((crlfLines_join_iff some_line).2 unbroken_rest).1⟩
    -- without an empty line there is nothing after it
    have none : rest = [] := by
      rw [List.drop_eq_nil_iff, List.idxOf_eq_length headerOnly]
      exact Nat.le_succ _
    show join rest = []
    rw [none]
    rfl

/-- A message whose lines end in carriage returns, but for the last, with empty lines around the
body and a dot behind it. -/
theorem returned_read_of_isWritten :
    let ls := ["From: a@b.c", "To: x@y.org", "", "", "hi", "", ".", "more"].map fun line =>
      Utf8.encodeDropping (Text.ofString line)
    let data := Utf8.encodeDropping "From: a@b.c\rTo: x@y.org\r\r\rhi\r\r.\rmore"
    (∀ line ∈ ls, line.IsUnbroken) ∧ IsWritten .cr ls data ∧
      ∃ email, read false data = .ok email ∧ email.message.IsPaired ∧
        crlfLines email.message = [[], Utf8.encodeDropping "hi", []] := by
  intro ls data
  have unbroken : ∀ line ∈ ls, line.IsUnbroken := by decide +kernel
  have written : IsWritten .cr ls data :=
    .ended _ (.ended _ (.ended _ (.ended _ (.ended _ (.ended _ (.ended _ (.last (by decide))))))))
  have succeeds : (read false data).isOk = true := by decide +kernel
  refine ⟨unbroken, written, ?_⟩
  cases reading : read false data with
  | error failure =>
    rw [reading] at succeeds
    cases succeeds
  | ok email =>
    obtain ⟨-, -, paired, apart⟩ := (read_of_isWritten unbroken written false).2 email reading
    exact ⟨email, rfl, paired, apart (by decide)⟩

end Email

end Mailroom
