import Mailroom.Proofs.Header.Clean
import Mailroom.Proofs.Header.Token
import Mailroom.Proofs.Header.Unfolding
import Mailroom.Proofs.Text.Octets

/-!
# Headers that are written and read again

A header is written as one line for each field. Read again, each of them is a field with one value,
which is that of the octets that were written: pieces of several texts may make a character
together that none of them has.

* `Text.crlfLines`: a text between its line ends;
* `Header.write?_eq_some_iff`: which headers are written, and how;
* `Header.parse_write?`: what is read of the lines of a written header.
-/

namespace Mailroom

/-! ### Lines of a text -/

namespace Text

/-- The pieces between carriage returns with a line feed after them. -/
def crlfLines : Text → List Text
  | [] => [[]]
  | [c] => [[c]]
  | c :: d :: t =>
    if c.val = 0x0D ∧ d.val = 0x0A then [] :: crlfLines t
    else (crlfLines (d :: t)).modifyHead (c :: ·)

theorem crlfLines_cons_of_ne {c : CodePoint} (hc : c.val ≠ 0x0D) (t : Text) :
    crlfLines (c :: t) = (crlfLines t).modifyHead (c :: ·) := by
  cases t with
  | nil => rfl
  | cons d t => rw [crlfLines, if_neg fun h => hc h.1]

theorem crlfLines_of_isUnbroken {line : Text} (h : line.IsUnbroken) : crlfLines line = [line] := by
  induction line with
  | nil => rfl
  | cons c line ih =>
    rw [crlfLines_cons_of_ne fun hc => h c List.mem_cons_self (.inl hc),
      ih fun d hd => h d (List.mem_cons_of_mem c hd)]
    rfl

theorem crlfLines_append {line : Text} (h : line.IsUnbroken) (rest : Text) :
    crlfLines (line ++ (ofString "\r\n" ++ rest)) = line :: crlfLines rest := by
  induction line with
  | nil => exact if_pos ⟨rfl, rfl⟩
  | cons c line ih =>
    rw [List.cons_append, crlfLines_cons_of_ne fun hc => h c List.mem_cons_self (.inl hc),
      ih fun d hd => h d (List.mem_cons_of_mem c hd)]
    rfl

/-- Joined lines come apart again. -/
theorem crlfLines_join {lines : List Text} (nonempty : lines ≠ [])
    (unbroken : ∀ line ∈ lines, line.IsUnbroken) :
    crlfLines (join "\r\n" lines) = lines := by
  induction lines with
  | nil => exact absurd rfl nonempty
  | cons line lines ih =>
    rw [List.forall_mem_cons] at unbroken
    cases lines with
    | nil => exact crlfLines_of_isUnbroken unbroken.1
    | cons next lines =>
      rw [join, List.append_assoc, crlfLines_append unbroken.1, ih (by simp) unbroken.2]

end Text

/-! ### Written headers -/

namespace Header

variable {h : Header}

/-- A token is written as it stands, and read again so. -/
theorem isSurrogate_of_mem_token {name : Text} (token : FieldName.isToken name = true) :
    ∀ c ∈ name ++ Text.ofString ": ", c.isSurrogate = false := by
  have mark : ∀ c ∈ Text.ofString ": ", c.isSurrogate = false := by decide
  refine List.forall_mem_append.2 ⟨fun c hc => ?_, mark⟩
  exact CodePoint.isSurrogate_of_isAscii
    (FieldName.isAscii_of_isTokenChar ((FieldName.isToken_iff.1 token).2 c hc))

theorem isEncodable_line_iff {f : Field} (token : FieldName.isToken f.name = true) :
    (line f).IsEncodable ↔ f.first.IsEncodable := by
  have plain := isSurrogate_of_mem_token token
  rw [line, Text.IsEncodable, List.forall_mem_append]
  exact and_iff_right (Utf8.exists_encode?_iff.1 ⟨_, Utf8.encode?_of_plain plain⟩)

theorem octetsOf_line {f : Field} (token : FieldName.isToken f.name = true)
    (encodable : f.first.IsEncodable) :
    Utf8.octetsOf (line f) =
      Utf8.encodeDropping (f.name ++ Text.ofString ": ") ++ Utf8.octetsOf f.first := by
  have plain := isSurrogate_of_mem_token token
  rw [line, Utf8.octetsOf_append (Utf8.exists_encode?_iff.1 ⟨_, Utf8.encode?_of_plain plain⟩)
    encodable, Utf8.octetsOf_of_plain plain]

/-- The line of a field is read again with its value read again. -/
theorem decodeKeeping_octetsOf_line {f : Field} (token : FieldName.isToken f.name = true)
    (encodable : f.first.IsEncodable) :
    Utf8.decodeKeeping (Utf8.octetsOf (line f)) =
      f.name ++ Text.ofString ": " ++ Utf8.reread f.first := by
  rw [octetsOf_line token encodable,
    Utf8.decodeKeeping_encodeDropping_append (isSurrogate_of_mem_token token)]
  rfl

theorem isUnbroken_octetsOf_line {f : Field} (token : FieldName.isToken f.name = true)
    (encodable : f.first.IsEncodable) (unbroken : f.first.IsUnbroken) :
    (Utf8.octetsOf (line f)).IsUnbroken := by
  refine (Utf8.isUnbroken_encode? (Utf8.encode?_eq_octetsOf
    ((isEncodable_line_iff token).2 encodable))).2 (isUnbroken_line.2 ⟨fun c hc => ?_, unbroken⟩)
  exact (FieldName.isName_of_isToken token c hc).2.2.2

/-- A header is written exactly if its lines have octets. -/
theorem write?_eq_some_iff {head : Octets} :
    h.write? = some head ↔ (∀ f ∈ h.written, (line f).IsEncodable) ∧
      head = Framing.join (h.written.map fun f => Utf8.octetsOf (line f)) := by
  have whole : h.lines = h.written.map line := rfl
  rw [write?, Utf8.encode?_join_eq_some_iff, whole, List.forall_mem_map, List.map_map]
  rfl

/-- A header with tokens as names is written exactly if its values have octets. -/
theorem write?_eq_some_iff_of_isToken
    (tokens : ∀ f ∈ h.written, FieldName.isToken f.name = true) {head : Octets} :
    h.write? = some head ↔ (∀ f ∈ h.written, f.first.IsEncodable) ∧
      head = Framing.join (h.written.map fun f => Utf8.octetsOf (line f)) :=
  write?_eq_some_iff.trans
    (and_congr_left' (forall₂_congr fun f hf => isEncodable_line_iff (tokens f hf)))

/-- Read again, such a header comes apart into the lines of its fields. -/
theorem crlfLines_decodeKeeping (nonempty : h.written ≠ [])
    (tokens : ∀ f ∈ h.written, FieldName.isToken f.name = true)
    (values : ∀ f ∈ h.written, f.first.IsEncodable ∧ f.first.IsUnbroken) :
    Text.crlfLines (Utf8.decodeKeeping
        (Framing.join (h.written.map fun f => Utf8.octetsOf (line f)))) =
      h.written.map fun f => f.name ++ Text.ofString ": " ++ Utf8.reread f.first := by
  have texts : (h.written.map fun f => Utf8.octetsOf (line f)).map Utf8.decodeKeeping =
      h.written.map fun f => f.name ++ Text.ofString ": " ++ Utf8.reread f.first := by
    rw [List.map_map]
    exact List.map_congr_left fun f hf =>
      decodeKeeping_octetsOf_line (tokens f hf) (values f hf).1
  rw [Utf8.decodeKeeping_join, texts]
  refine Text.crlfLines_join (by simpa using nonempty) (List.forall_mem_map.2 fun f hf => ?_)
  rw [Text.isUnbroken_append, Text.isUnbroken_append]
  exact ⟨⟨fun c hc => (FieldName.isName_of_isToken (tokens f hf) c hc).2.2.2, by decide⟩,
    Utf8.isUnbroken_reread (values f hf).1 (values f hf).2⟩

theorem increasing_written (nodup : (h.fields.map (·.name)).Nodup) : Increasing h.written :=
  (increasing_sorted nodup).filter _

theorem nodup_written (nodup : (h.fields.map (·.name)).Nodup) :
    (h.written.map (·.name)).Nodup :=
  (((perm_sorted h.fields).map _).nodup_iff.2 nodup).sublist (List.filter_sublist.map _)

/-- What is written under a name is what is there, unless it is hidden. -/
theorem lookup?_written (nodup : (h.fields.map (·.name)).Nodup) (name : Text) :
    lookup? h.written name = if isHidden name then none else lookup? h.fields name := by
  ext f
  rw [lookup?_eq_some_iff (nodup_written nodup), mem_written]
  split
  · next hidden =>
    refine iff_of_false ?_ nofun
    rintro ⟨⟨-, shown⟩, rfl⟩
    rw [hidden] at shown
    cases shown
  · next shown =>
    rw [lookup?_eq_some_iff nodup]
    constructor
    · exact fun ⟨⟨hf, _⟩, same⟩ => ⟨hf, same⟩
    · rintro ⟨hf, rfl⟩
      exact ⟨⟨hf, Bool.eq_false_iff.2 shown⟩, rfl⟩

/-- The field that is read of what is written of a field. -/
def rereadField (f : Field) : Field := ⟨f.name, (Utf8.reread f.first).trim, []⟩

theorem lookup?_map_rereadField (fields : List Field) (name : Text) :
    lookup? (fields.map rereadField) name = (lookup? fields name).map rereadField := by
  induction fields with
  | nil => rfl
  | cons f fields ih =>
    rw [List.map_cons, lookup?_cons, lookup?_cons, ih, apply_ite (Option.map rereadField)]
    rfl

/-- The line that is read of what is written of a field. -/
def rereadLine (f : Field) : FoldedField :=
  ⟨f.name, CodePoint.ofChar ' ' :: Utf8.reread f.first, []⟩

theorem written_map_rereadField (nodup : (h.fields.map (·.name)).Nodup) (revision : Nat) :
    written ⟨h.written.map rereadField, false, revision⟩ = h.written.map rereadField := by
  have ordered : sorted ⟨h.written.map rereadField, false, revision⟩ = h.written.map rereadField :=
    sorted_of_increasing (List.pairwise_map.2 (increasing_written nodup))
  rw [written, ordered, List.filter_eq_self]
  exact List.forall_mem_map.2 fun f hf => by rw [rereadField, (mem_written.1 hf).2]; rfl

theorem firstLine_rereadLine (f : Field) :
    (rereadLine f).firstLine = f.name ++ Text.ofString ": " ++ Utf8.reread f.first :=
  (List.append_assoc f.name (Text.ofString ": ") _).symm

theorem value_rereadLine (f : Field) : (rereadLine f).value = (Utf8.reread f.first).trim := by
  obtain ⟨l, r, whole, left, right, trimmed⟩ := Text.exists_blanks (Utf8.reread f.first)
  have spaced : Text.isBlank (CodePoint.ofChar ' ' :: l) = true := by
    rw [Text.isBlank, List.all_cons, Bool.and_eq_true]
    exact ⟨by decide, left⟩
  -- the space after the colon is one blank more at the beginning
  have piece : Text.trim (CodePoint.ofChar ' ' :: Utf8.reread f.first) =
      (Utf8.reread f.first).trim := by
    have := Text.trim_append spaced trimmed right
    rwa [List.cons_append, List.cons_append, ← whole] at this
  rw [FoldedField.value, FoldedField.core, FoldedField.pieces, rereadLine, List.map_singleton, piece]
  cases (Utf8.reread f.first).trim <;> rfl

theorem isLabel_of_isToken {name : Text} (token : FieldName.isToken name = true) :
    FieldName.IsLabel name where
  nonempty := (FieldName.isToken_iff.1 token).1
  trimmed := Text.trim_eq_self_iff.2 (FieldName.isTrimmed_of_isToken token)
  colonless colon := (FieldName.isName_of_isToken token _ colon).1 rfl
  spaceless c hc := ⟨(FieldName.isName_of_isToken token c hc).2.1,
    (FieldName.isName_of_isToken token c hc).2.2.1⟩

/-- The lines of written fields are read as fields with their values read again. -/
theorem parse_rereadLines {fields : List Field} (nodup : (fields.map (·.name)).Nodup)
    (names : ∀ f ∈ fields, FieldName.isToken f.name = true ∧ FieldName.IsSettled f.name) :
    parse (fields.map fun f => f.name ++ Text.ofString ": " ++ Utf8.reread f.first) =
      .ok ⟨fields.map rereadField, false, fields.length⟩ := by
  have gathered : gather (fields.map fun f => (f.name, [(Utf8.reread f.first).trim])) =
      fields.map rereadField := by
    have names' : ((fields.map rereadField).map (·.name)).Nodup := by
      rw [List.map_map]
      exact nodup
    have := gather_of_isSettled names' (List.forall_mem_map.2 fun f hf => (names f hf).2)
    rwa [List.map_map] at this
  refine parse_eq_ok_iff.2 ⟨fields.map rereadLine, ?_, ?_, ?_⟩
  · rw [List.flatMap_map, List.flatMap_congr fun f _ => show (rereadLine f).lines =
      [f.name ++ Text.ofString ": " ++ Utf8.reread f.first] by
        rw [FoldedField.lines, firstLine_rereadLine]; rfl]
    exact (List.flatMap_pure_eq_map _ _).symm
  · exact List.forall_mem_map.2 fun f hf =>
      ⟨isLabel_of_isToken (names f hf).1, fun _ h => (by cases h)⟩
  · rw [List.map_map, List.length_map, ← gathered]
    congr 2
    exact List.map_congr_left fun f _ => by
      rw [Function.comp_apply, value_rereadLine]
      rfl

/-- What is read under a name is the first value under it, read again. -/
theorem valuesOf_map_rereadField (nodup : (h.fields.map (·.name)).Nodup) (name : Text) :
    valuesOf (h.written.map rereadField) name = if isHidden name then [] else
      ((valuesOf h.fields name).take 1).map fun value => (Utf8.reread value).trim := by
  unfold valuesOf
  rw [lookup?_map_rereadField, lookup?_written nodup]
  split
  · rfl
  · cases lookup? h.fields name <;> rfl

theorem trim_reread_eq_self_iff {t : Text} (trimmed : t.IsTrimmed) :
    (Utf8.reread t).trim = t ↔ ∃ octets, t = Utf8.decodeKeeping octets := by
  rw [← Utf8.reread_eq_self_iff]
  constructor
  · intro same
    -- no blank can have been lost, as that would have cost octets
    have lossless : Utf8.octetsOf (Utf8.reread t).trim = Utf8.octetsOf (Utf8.reread t) := by
      rw [same, Utf8.reread, Utf8.octetsOf_decodeKeeping]
    have whole := Text.trim_eq_self_iff.2
      ((Utf8.octetsOf_trim_eq_iff (Utf8.isEncodable_reread t)).1 lossless)
    rwa [whole] at same
  · intro same
    rw [same, Text.trim_eq_self_iff.2 trimmed]

/-- The fields that are read are those that were written exactly if their values are texts of some
octets. -/
theorem values_map_rereadField_iff (nodup : (h.fields.map (·.name)).Nodup)
    (settled : ∀ f ∈ h.written, FieldName.IsSettled f.name)
    (trimmed : ∀ f ∈ h.written, f.first.IsTrimmed) (revision : Nat) :
    (∀ name, values ⟨h.written.map rereadField, false, revision⟩ name =
        if isHidden (FieldName.canonical name) then [] else (h.values name).take 1) ↔
      ∀ f ∈ h.written, ∃ octets, f.first = Utf8.decodeKeeping octets := by
  have read (name : Text) : values ⟨h.written.map rereadField, false, revision⟩ name =
      if isHidden (FieldName.canonical name) then [] else
        ((h.values name).take 1).map fun value => (Utf8.reread value).trim :=
    valuesOf_map_rereadField nodup (FieldName.canonical name)
  simp only [read]
  constructor
  · intro same f hf
    obtain ⟨member, shown⟩ := mem_written.1 hf
    have own : FieldName.canonical f.name = f.name := settled f hf
    have stored : h.values f.name = f.first :: f.more := by
      show valuesOf h.fields (FieldName.canonical f.name) = f.values
      rw [own, values_eq_valuesOf nodup member]
    have here := same f.name
    rw [own, shown, if_neg Bool.false_ne_true, if_neg Bool.false_ne_true, stored] at here
    exact (trim_reread_eq_self_iff (trimmed f hf)).1 (List.cons.inj here).1
  · intro all name
    split
    · rfl
    · next shown =>
      refine (List.map_congr_left fun value hvalue => ?_).trans (List.map_id _)
      cases found : lookup? h.fields (FieldName.canonical name) with
      | none =>
        rw [values, find?, found] at hvalue
        cases hvalue
      | some f =>
        have hf : f ∈ h.written := mem_written.2
          ⟨mem_of_lookup? found, by rw [name_of_lookup? found, Bool.eq_false_iff.2 shown]⟩
        rw [values, find?, found] at hvalue
        rw [List.mem_singleton.1 (show value ∈ [f.first] from hvalue)]
        exact (trim_reread_eq_self_iff (trimmed f hf)).2 (all f hf)

/-- The lines of the fields that are read are those that were written exactly if no value loses a
blank. -/
theorem write?_map_rereadField_iff (nodup : (h.fields.map (·.name)).Nodup)
    (nonempty : h.written ≠ []) (tokens : ∀ f ∈ h.written, FieldName.isToken f.name = true)
    (values : ∀ f ∈ h.written, f.first.IsUnbroken) {head : Octets} (e : h.write? = some head)
    (revision : Nat) :
    write? ⟨h.written.map rereadField, false, revision⟩ = some head ↔
      ∀ f ∈ h.written, (Utf8.reread f.first).IsTrimmed := by
  obtain ⟨encodable, rfl⟩ := (write?_eq_some_iff_of_isToken tokens).1 e
  have encodable' : ∀ f ∈ h.written, (rereadField f).first.IsEncodable := fun f _ =>
    (Utf8.isEncodable_reread f.first).trim
  have all : ∀ f ∈ h.written.map rereadField, f.first.IsEncodable :=
    List.forall_mem_map.2 encodable'
  have unbroken' : ∀ f ∈ h.written, (rereadField f).first.IsUnbroken := fun f hf =>
    (Utf8.isUnbroken_reread (encodable f hf) (values f hf)).trim
  have lines : ∀ f ∈ h.written, (Utf8.octetsOf (line f) = Utf8.octetsOf (line (rereadField f)) ↔
      (Utf8.reread f.first).IsTrimmed) := fun f hf => by
    rw [octetsOf_line (tokens f hf) (encodable f hf),
      octetsOf_line (f := rereadField f) (tokens f hf) (encodable' f hf),
      ← Utf8.octetsOf_trim_eq_iff (Utf8.isEncodable_reread f.first), Utf8.reread,
      Utf8.octetsOf_decodeKeeping]
    exact (List.append_right_inj _).trans eq_comm
  have written := written_map_rereadField nodup revision
  rw [write?_eq_some_iff_of_isToken (by rw [written]; exact List.forall_mem_map.2 tokens), written,
    and_iff_right all, List.map_map,
    Framing.join_inj (by simpa using nonempty) (by simpa using nonempty), List.map_inj_left]
  · exact forall₂_congr lines
  · exact List.forall_mem_map.2 fun f hf =>
      isUnbroken_octetsOf_line (tokens f hf) (encodable f hf) (values f hf)
  · exact List.forall_mem_map.2 fun f hf =>
      isUnbroken_octetsOf_line (f := rereadField f) (tokens f hf) (encodable' f hf) (unbroken' f hf)

/-- **What is read of a written header.** A header with tokens in canonical form as names and with
trimmed values without breaks is written exactly if all of its values have octets. It comes apart
into one line for each field, in order of their names, and `Bcc` is left out. Read again, each of
these is a field with one value, the text of the octets that were written without the blanks at its
ends. These are the first values that the fields had exactly if each of these is the text of some
octets; and the same octets are written once more exactly if no value loses a blank. -/
theorem parse_write? {h : Header} (nodup : (h.fields.map (·.name)).Nodup)
    (nonempty : h.written ≠ [])
    (names : ∀ f ∈ h.written, FieldName.isToken f.name = true ∧ FieldName.IsSettled f.name)
    (values : ∀ f ∈ h.written, f.first.IsUnbroken ∧ f.first.trim = f.first) :
    ((∃ head, h.write? = some head) ↔ ∀ f ∈ h.written, f.first.IsEncodable) ∧
      ∀ head, h.write? = some head →
        let lines := Text.crlfLines (Utf8.decodeKeeping head)
        lines = (h.written.map fun f => f.name ++ Text.ofString ": " ++ Utf8.reread f.first) ∧
        (h.written.map (·.name)).Pairwise (fun a b => Text.before a b = true) ∧
        ∃ k, parse lines = .ok k ∧ k.isReadOnly = false ∧
          k.fields = (h.written.map fun f => ⟨f.name, (Utf8.reread f.first).trim, []⟩) ∧
          ((∀ name, k.values name = if isHidden (FieldName.canonical name) then []
              else (h.values name).take 1) ↔
            ∀ f ∈ h.written, ∃ octets, f.first = Utf8.decodeKeeping octets) ∧
          (k.write? = some head ↔ ∀ f ∈ h.written, (Utf8.reread f.first).IsTrimmed) := by
  have tokens : ∀ f ∈ h.written, FieldName.isToken f.name = true := fun f hf => (names f hf).1
  refine ⟨⟨fun ⟨head, e⟩ => ((write?_eq_some_iff_of_isToken tokens).1 e).1,
    fun all => ⟨_, (write?_eq_some_iff_of_isToken tokens).2 ⟨all, rfl⟩⟩⟩, fun head e => ?_⟩
  obtain ⟨encodable, hhead⟩ := (write?_eq_some_iff_of_isToken tokens).1 e
  have apart := crlfLines_decodeKeeping nonempty tokens fun f hf =>
    ⟨encodable f hf, (values f hf).1⟩
  rw [← hhead] at apart
  refine ⟨apart, List.pairwise_map.2 (increasing_written nodup),
    ⟨h.written.map rereadField, false, h.written.length⟩, ?_, rfl, rfl, ?_, ?_⟩
  · rw [apart]
    exact parse_rereadLines (nodup_written nodup) names
  · exact values_map_rereadField_iff nodup (fun f hf => (names f hf).2)
      (fun f hf => Text.trim_eq_self_iff.1 (values f hf).2) _
  · exact write?_map_rereadField_iff nodup nonempty tokens (fun f hf => (values f hf).1) e _

/-- A closed header with an empty value, a colon in a value and an octet that is ill-formed is read
as it was, but for `Bcc` and all values after the first. -/
theorem closed_parse_write? :
    let note : Text := Text.ofString "re: caf" ++ [CodePoint.ofOctet 0xE9]
    let h : Header := ⟨[⟨"Subject", note, ["later"]⟩, ⟨"Bcc", "x@y.org", []⟩, ⟨"Cc", [], []⟩], true, 4⟩
    let written : List Field := [⟨"Cc", [], []⟩, ⟨"Subject", note, ["later"]⟩]
    h.written = written ∧ (h.fields.map (·.name)).Nodup ∧
      (∀ f ∈ written, FieldName.isToken f.name = true ∧ FieldName.IsSettled f.name) ∧
      (∀ f ∈ written, f.first.IsUnbroken ∧ f.first.trim = f.first) ∧
      ∃ head k, h.write? = some head ∧ parse (Text.crlfLines (Utf8.decodeKeeping head)) = .ok k ∧
        k.fields = [⟨"Cc", [], []⟩, ⟨"Subject", note, []⟩] ∧ k.write? = some head := by
  intro note h written
  have hwritten : h.written = written := by decide +kernel
  have nodup : (h.fields.map (·.name)).Nodup := by decide +kernel
  have names : ∀ f ∈ written, FieldName.isToken f.name = true ∧ FieldName.IsSettled f.name := by
    decide +kernel
  have values : ∀ f ∈ written, f.first.IsUnbroken ∧ f.first.trim = f.first := by decide +kernel
  obtain ⟨writes, reads⟩ := parse_write? nodup (by rw [hwritten]; exact List.cons_ne_nil _ _)
    (by rw [hwritten]; exact names) (by rw [hwritten]; exact values)
  obtain ⟨head, e⟩ := writes.2 (by rw [hwritten]; decide +kernel)
  obtain ⟨-, -, k, parses, -, fields, -, again⟩ := reads head e
  rw [hwritten] at fields again
  refine ⟨hwritten, nodup, names, values, head, k, e, parses, fields.trans (by decide +kernel),
    again.2 (by decide +kernel)⟩

/-- Two octets that are ill-formed in two values are a blank where these are put together: the value
is lost when it is read again, and with it two of the octets that were written. -/
theorem parse_write?_of_halves :
    let high := CodePoint.ofOctet 0xC2
    let low := CodePoint.ofOctet 0xA0
    let h : Header := ⟨[⟨"A", [high], []⟩, ⟨"B", [low], []⟩, ⟨"X", [high, low], []⟩], false, 3⟩
    (h.fields.map (·.name)).Nodup ∧ h.written = h.fields ∧
      (∀ f ∈ h.fields, FieldName.isToken f.name = true ∧ FieldName.IsSettled f.name) ∧
      (∀ f ∈ h.fields, f.first.IsUnbroken ∧ f.first.trim = f.first) ∧
      ∃ head k, h.write? = some head ∧ parse (Text.crlfLines (Utf8.decodeKeeping head)) = .ok k ∧
        h.values "X" = [[high, low]] ∧ k.values "X" = [[]] ∧ k.write? ≠ some head := by
  refine ⟨by decide +kernel, by decide +kernel, by decide +kernel, by decide +kernel, ?_⟩
  exact ⟨_, _, rfl, rfl, by decide +kernel, by decide +kernel, by decide +kernel⟩

end Header

end Mailroom
