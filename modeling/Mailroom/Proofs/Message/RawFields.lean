import Mailroom.Proofs.Header.Rereading
import Mailroom.Proofs.Message.CarryOver

/-!
# Fields as they arrive

The octets of a field go out as they came in, whatever they are, but for the blanks around its
lines.

* `RawField`: a field as it stands in the octets of some lines; `RawField.read` is the field that
  is read of it;
* `RawField.exists_rawFields`: lines that are read as folded fields are such fields;
* `Header.isEncodable_line_of_read`: whatever is read can be written;
* `Email.read_keeps_octets`: what is written of a field that has been read.
-/

namespace Mailroom

/-- A field as it stands in the octets of some lines. -/
structure RawField where
  name : Octets
  opening : Octets
  more : List Octets
deriving DecidableEq

namespace RawField

/-- The line that begins the field. -/
def firstLine (f : RawField) : Octets := f.name ++ 0x3A :: f.opening

/-- The lines of the field. -/
def lines (f : RawField) : List Octets := f.firstLine :: f.more

/-- The field that is read of these lines. -/
def read (f : RawField) : FoldedField :=
  ⟨Utf8.decodeKeeping f.name, Utf8.decodeKeeping f.opening, f.more.map Utf8.decodeKeeping⟩

/-- A line that is read with a colon in it has one where that is. -/
theorem exists_colon {line : Octets} {s t : Text} (colonless : CodePoint.ofChar ':' ∉ s)
    (read : Utf8.decodeKeeping line = s ++ CodePoint.ofChar ':' :: t) :
    ∃ name opening, line = name ++ 0x3A :: opening ∧ Utf8.decodeKeeping name = s ∧
      Utf8.decodeKeeping opening = t := by
  have colon {octets : Octets} :
      0x3A ∈ octets ↔ CodePoint.ofChar ':' ∈ Utf8.decodeKeeping octets := by
    rw [Utf8.mem_encode?_iff (Utf8.encode?_decodeKeeping octets) (by decide)]
    exact ⟨fun ⟨c, hc, value⟩ => CodePoint.ext (b := CodePoint.ofChar ':') value ▸ hc,
      fun h => ⟨_, h, rfl⟩⟩
  obtain ⟨name, opening, whole, first⟩ := List.eq_append_cons_of_mem
    (colon.2 (read ▸ List.mem_append_right s List.mem_cons_self))
  have parts : Utf8.decodeKeeping line =
      Utf8.decodeKeeping name ++ CodePoint.ofChar ':' :: Utf8.decodeKeeping opening :=
    whole ▸ Utf8.decodeKeeping_append_cons name (by decide) opening
  -- both are cut at the first colon
  have cuts := (Text.cut?_append colonless t).symm.trans
    ((congrArg (Text.cut? ':') (read.symm.trans parts)).trans
      (Text.cut?_append (fun h => first (colon.2 h)) _))
  obtain ⟨hname, hopening⟩ := Prod.mk.inj (Option.some.inj cuts)
  exact ⟨name, opening, whole, hname.symm, hopening.symm⟩

/-- Lines that are read as folded fields are the lines of such fields. -/
theorem exists_rawFields {fs : List FoldedField} (proper : ∀ f ∈ fs, f.IsProper)
    {lines : List Octets}
    (read : lines.map Utf8.decodeKeeping = fs.flatMap FoldedField.lines) :
    ∃ raws : List RawField, lines = raws.flatMap RawField.lines ∧ raws.map RawField.read = fs := by
  induction fs generalizing lines with
  | nil => exact ⟨[], List.map_eq_nil_iff.1 read, rfl⟩
  | cons f fs ih =>
    rw [List.forall_mem_cons] at proper
    rw [List.flatMap_cons, FoldedField.lines, List.cons_append] at read
    obtain ⟨line, others, rfl, hline, hothers⟩ := List.map_eq_cons_iff.1 read
    obtain ⟨more, rest, rfl, hmore, hrest⟩ := List.map_eq_append_iff.1 hothers
    obtain ⟨raws, rfl, hraws⟩ := ih proper.2 hrest
    obtain ⟨name, opening, rfl, hname, hopening⟩ :=
      exists_colon proper.1.label.colonless hline
    refine ⟨⟨name, opening, more⟩ :: raws, rfl, ?_⟩
    rw [List.map_cons, hraws, RawField.read, hname, hopening, hmore]

end RawField

theorem RawField.map_lines (f : RawField) : f.lines.map Utf8.decodeKeeping = f.read.lines := by
  rw [lines, List.map_cons, firstLine, Utf8.decodeKeeping_append_cons f.name (by decide) f.opening]
  rfl

/-- Such fields are read one after the other. -/
theorem Header.parse_rawFields {fs : List RawField} (proper : ∀ f ∈ fs, f.read.IsProper) :
    parse ((fs.flatMap RawField.lines).map Utf8.decodeKeeping) =
      .ok ⟨gather ((fs.map RawField.read).map fun g => (g.name, [g.value])), false,
        (fs.map RawField.read).length⟩ := by
  refine parse_eq_ok_iff.2 ⟨fs.map RawField.read, ?_, List.forall_mem_map.2 proper, rfl⟩
  rw [List.map_flatMap, List.flatMap_map]
  exact List.flatMap_congr fun f _ => f.map_lines

/-! ### What is read can be written -/

namespace FoldedField

/-- The value of a field with no blank continuation line has nothing but single spaces between its
pieces. -/
theorem value_eq_squeezed {f : FoldedField} (visible : ∀ line ∈ f.more, line.isBlank = false) :
    f.value = f.squeezed := by
  rw [value_eq_squeezed_iff]
  have later : ∀ piece ∈ f.more.map Text.trim, piece ≠ [] := by
    refine List.forall_mem_map.2 fun line hline none => ?_
    have := visible line hline
    rw [← Text.isBlank_trim, none] at this
    cases this
  intro piece hpiece
  have pieces : f.pieces = f.opening.trim :: f.more.map Text.trim := rfl
  rw [core, pieces] at hpiece
  -- only the first line may be blank, and then it is not in the core
  cases first : f.opening.trim with
  | nil =>
    rw [first, List.dropWhile_cons_of_pos rfl] at hpiece
    exact later piece ((List.dropWhile_suffix _).subset hpiece)
  | cons c t =>
    rw [first, List.dropWhile_cons_of_neg (by simp)] at hpiece
    rcases List.mem_cons.1 hpiece with rfl | hpiece
    · exact List.cons_ne_nil c t
    · exact later piece hpiece

theorem isEncodable_value {f : FoldedField} (opening : f.opening.IsEncodable)
    (more : ∀ line ∈ f.more, line.IsEncodable) : f.value.IsEncodable := by
  refine (Text.isEncodable_join_iff (by decide)).2 fun piece hpiece => ?_
  obtain ⟨line, hline, rfl⟩ := List.mem_map.1 ((List.dropWhile_suffix _).subset hpiece)
  exact (List.forall_mem_cons.2 ⟨opening, more⟩ line hline).trim

end FoldedField

theorem FieldName.isEncodable_canonical {t : Text} (h : t.IsEncodable) :
    (canonical t).IsEncodable := by
  intro c hc
  cases surrogate : c.isSurrogate with
  | true => exact h c (mem_of_mem_canonical hc surrogate)
  | false => exact CodePoint.hasOctets_of_isSurrogate surrogate

namespace Header

/-- A field that is gathered has its name and its first value from one entry. -/
theorem exists_mem_of_mem_gather {entries : List (Text × List Text)} {f : Field}
    (hf : f ∈ gather entries) :
    ∃ entry ∈ entries, FieldName.canonical entry.1 = f.name ∧ f.first ∈ entry.2 := by
  have first : f.first ∈ valuesOf (gather entries) f.name := by
    rw [← values_eq_valuesOf (nodup_gather entries) hf]
    exact List.mem_cons_self
  rw [valuesOf_gather] at first
  obtain ⟨entry, hentry, hfirst⟩ := List.mem_flatMap.1 first
  obtain ⟨member, same⟩ := List.mem_filter.1 hentry
  exact ⟨entry, member, of_decide_eq_true same, hfirst⟩

/-- The first of the folded fields of a name comes first under it. -/
theorem lookup?_gather_append {before : List FoldedField} {f : FoldedField}
    (first : ∀ g ∈ before, FieldName.canonical g.name ≠ FieldName.canonical f.name)
    (after : List FoldedField) :
    ∃ more, lookup? (gather ((before ++ f :: after).map fun g => (g.name, [g.value])))
      (FieldName.canonical f.name) = some ⟨FieldName.canonical f.name, f.value, more⟩ := by
  have none : before.filter
      (fun g => FieldName.canonical g.name = FieldName.canonical f.name) = [] :=
    List.filter_eq_nil_iff.2 fun g hg => by simpa using first g hg
  have values : valuesOf (gather ((before ++ f :: after).map fun g => (g.name, [g.value])))
      (FieldName.canonical f.name) =
        ((before ++ f :: after).filter fun g =>
          FieldName.canonical g.name = FieldName.canonical f.name).map FoldedField.value := by
    rw [valuesOf_gather, List.filter_map, List.flatMap_map]
    exact List.flatMap_pure_eq_map _ _
  rw [List.filter_append, none, List.nil_append, List.filter_cons_of_pos (by simp),
    List.map_cons] at values
  exact ⟨_, by rw [lookup?_eq, values]; rfl⟩

/-- Whatever is read can be written. -/
theorem isEncodable_line_of_mem_gather {raws : List RawField} {f : Field}
    (hf : f ∈ gather ((raws.map RawField.read).map fun g => (g.name, [g.value]))) :
    (line f).IsEncodable := by
  obtain ⟨entry, hentry, name, first⟩ := exists_mem_of_mem_gather hf
  rw [List.map_map] at hentry
  obtain ⟨raw, -, rfl⟩ := List.mem_map.1 hentry
  have value : raw.read.value.IsEncodable :=
    FoldedField.isEncodable_value (Utf8.isEncodable_decodeKeeping _)
      (List.forall_mem_map.2 fun line _ => Utf8.isEncodable_decodeKeeping line)
  rw [line, Text.isEncodable_append, Text.isEncodable_append, ← name, List.mem_singleton.1 first]
  exact ⟨⟨FieldName.isEncodable_canonical (Utf8.isEncodable_decodeKeeping _), by decide⟩, value⟩

theorem exists_write?_of_gather {h : Header} {raws : List RawField}
    (fields : h.fields = gather ((raws.map RawField.read).map fun g => (g.name, [g.value]))) :
    ∃ head, h.write? = some head :=
  ⟨_, write?_eq_some_iff.2 ⟨fun _ hf =>
    isEncodable_line_of_mem_gather (fields ▸ (mem_written.1 hf).1), rfl⟩⟩

/-- A field with a token as its name has one line, with the octets of its first value. -/
theorem linesFor_eq {h : Header} {head : Octets} (e : h.write? = some head)
    (nodup : (h.fields.map (·.name)).Nodup) (clean : IsClean (fun _ => True) h.fields)
    {f : Field} (token : FieldName.isToken f.name = true) (shown : isHidden f.name = false)
    (found : lookup? h.fields f.name = some f) :
    head.linesFor f.name =
      [Utf8.encodeDropping (f.name ++ Text.ofString ": ") ++ Utf8.octetsOf f.first] := by
  have member : f ∈ h.written := mem_written.2 ⟨mem_of_lookup? found, shown⟩
  have alone : h.written.filter (fun g => g.name = f.name) = [f] := by
    rw [filter_name_eq (nodup_written nodup), lookup?_written nodup, shown,
      if_neg Bool.false_ne_true, found]
    rfl
  have encodable := (write?_eq_some_iff.1 e).1 f member
  have picked := linesFor_write? e (List.ne_nil_of_mem member)
    (fun g hg => ⟨clean.names g (mem_written.1 hg).1,
      clean.values g (mem_written.1 hg).1 trivial g.first List.mem_cons_self⟩)
    (FieldName.isName_of_isToken token)
    (fun c hc => of_decide_eq_true (List.all_eq_true.1 (FieldName.isAscii_of_isToken token) c hc))
    (Utf8.encode?_of_plain (isSurrogate_of_mem_token token))
  rw [alone, List.map_singleton, Utf8.mapM_encode?_cons, Utf8.encode?_eq_octetsOf encodable,
    octetsOf_line token ((isEncodable_line_iff token).1 encodable)] at picked
  exact (Option.some.inj picked).symm

end Header

/-! ### What is written of it -/

namespace RawField

/-- The octets of a field without the blanks around its lines. -/
def cores (f : RawField) : List Octets :=
  (f.opening :: f.more).map fun line => Utf8.octetsOf (Utf8.decodeKeeping line).trim

theorem forall₂_stripsTo_iff {f : RawField} {cores : List Octets} :
    List.Forall₂ Utf8.StripsTo (f.opening :: f.more) cores ↔ cores = f.cores := by
  unfold RawField.cores
  generalize f.opening :: f.more = lines
  induction lines generalizing cores with
  | nil => rw [List.forall₂_nil_left_iff, List.map_nil]
  | cons line lines ih =>
    simp only [List.forall₂_cons_left_iff, Utf8.stripsTo_iff, ih, List.map_cons]
    exact ⟨fun ⟨_, _, first, others, whole⟩ => by rw [whole, first, others],
      fun whole => ⟨_, _, rfl, rfl, whole⟩⟩

/-- The octets of the value are those of the lines, with a space in place of the blanks between
them. -/
theorem octetsOf_value {f : RawField}
    (visible : ∀ line ∈ f.more, (Utf8.decodeKeeping line).isBlank = false) :
    Utf8.octetsOf f.read.value =
      ([0x20] : Octets).intercalate (f.cores.filter fun core => core ≠ []) := by
  have encodable : ∀ piece ∈ f.read.pieces, piece.IsEncodable := by
    refine List.forall_mem_map.2 (List.forall_mem_cons.2
      ⟨(Utf8.isEncodable_decodeKeeping _).trim, List.forall_mem_map.2 fun line _ => ?_⟩)
    exact (Utf8.isEncodable_decodeKeeping line).trim
  have octets : f.cores = f.read.pieces.map Utf8.octetsOf := by
    simp only [cores, FoldedField.pieces, read, List.map_cons, List.map_map]
    rfl
  have nonempty : f.read.pieces.filter (fun piece => !piece.isEmpty) =
      f.read.pieces.filter fun piece => decide (Utf8.octetsOf piece ≠ []) :=
    List.filter_congr fun piece hpiece => Bool.eq_iff_iff.2 <| by
      rw [Bool.not_eq_true', List.isEmpty_eq_false_iff, decide_eq_true_iff, ne_eq, ne_eq,
        Utf8.octetsOf_eq_nil_iff (encodable piece hpiece)]
  rw [FoldedField.value_eq_squeezed (List.forall_mem_map.2 visible), FoldedField.squeezed,
    Utf8.octetsOf_join (by decide) fun piece hpiece => encodable piece (List.mem_filter.1 hpiece).1,
    nonempty, octets, List.filter_map]
  rfl

end RawField

namespace Email

open Header

/-- **The octets of a field go out as they came in.** The lines of a message that is read are those
of folded fields, and its header can be written, whatever its octets are. Of the fields of one name
that is a token other than `Bcc`, the first is written as one line under the canonical form of the
name: with the octets of its lines, well formed or not, of which only the blanks around each line
are gone, and a single space between those that are left. Lines that go on with the field must not
be blank. -/
theorem read_keeps_octets {ignoreDots : Bool} {data : Octets} {e : Email}
    (accepted : read ignoreDots data = .ok e) :
    let lines := (Framing.headAndBody (if ignoreDots then Framing.lines data
      else Framing.untilDot (Framing.lines data))).1
    (∃ fs : List RawField, lines = fs.flatMap RawField.lines ∧ ∀ f ∈ fs, f.read.IsProper) ∧
      ∃ head, e.header.write? = some head ∧
        ∀ (before : List RawField) (f : RawField) (after : List RawField),
          lines = (before ++ f :: after).flatMap RawField.lines →
          (∀ g ∈ before ++ f :: after, g.read.IsProper) →
          FieldName.isToken f.read.name = true → isHidden f.read.name = false →
          (∀ g ∈ before, FieldName.canonical g.read.name ≠ FieldName.canonical f.read.name) →
          (∀ line ∈ f.more, (Utf8.decodeKeeping line).isBlank = false) →
          let key := FieldName.canonical f.read.name
          ∃ cores, List.Forall₂ Utf8.StripsTo (f.opening :: f.more) cores ∧
            head.linesFor key = [Utf8.encodeDropping (key ++ Text.ofString ": ") ++
              ([0x20] : Octets).intercalate (cores.filter fun core => core ≠ [])] := by
  intro lines
  obtain ⟨_, header, rfl, parses, rfl, -⟩ := read_eq_ok accepted
  -- whatever fields the lines are taken for, the header that is read is theirs
  have gathered {fs : List RawField} (whole : lines = fs.flatMap RawField.lines)
      (proper : ∀ f ∈ fs, f.read.IsProper) :
      header.fields = gather ((fs.map RawField.read).map fun g => (g.name, [g.value])) := by
    have read := parse_rawFields proper
    rw [← whole, parses] at read
    rw [Except.ok.inj read]
  obtain ⟨folded, whole, proper, -⟩ := parse_eq_ok_iff.1 parses
  obtain ⟨fs, hlines, rfl⟩ := RawField.exists_rawFields proper whole
  obtain ⟨head, written⟩ :=
    exists_write?_of_gather (gathered hlines (List.forall_mem_map.1 proper))
  refine ⟨⟨fs, hlines, List.forall_mem_map.1 proper⟩, head, written, ?_⟩
  intro before f after whole proper token shown first visible key
  refine ⟨f.cores, RawField.forall₂_stripsTo_iff.2 rfl, ?_⟩
  have token' : FieldName.isToken key = true := FieldName.isToken_canonical token
  have shown' : isHidden key = false := by
    rw [isHidden, FieldName.lower_canonical (FieldName.isAscii_of_isToken token)]
    exact shown
  obtain ⟨more, found⟩ := lookup?_gather_append (f := f.read) (List.forall_mem_map.2 first)
    (after.map RawField.read)
  rw [← List.map_cons, ← List.map_append, ← gathered whole proper] at found
  rw [← RawField.octetsOf_value visible]
  exact linesFor_eq (f := ⟨key, f.read.value, more⟩) written (isKeyed_read accepted).nodup
    (isClean_read accepted).1 token' shown' found

/-- A folded field with ill-formed octets in it, and one of the same name after it. -/
theorem folded_read_keeps_octets :
    let f : RawField := ⟨Utf8.encodeDropping "sUBJECT", 0x20 :: 0xFF :: Utf8.encodeDropping " x\t",
      [Utf8.encodeDropping "\t: y" ++ [0xC3, 0xC2, 0xA0]]⟩
    let before : List RawField := [⟨Utf8.encodeDropping "From", Utf8.encodeDropping "a@b.c", []⟩,
      ⟨Utf8.encodeDropping "To", Utf8.encodeDropping "x@y.org", []⟩]
    let after : List RawField := [⟨Utf8.encodeDropping "Subject", Utf8.encodeDropping "late", []⟩]
    let data := ((before ++ f :: after).flatMap RawField.lines).flatMap (· ++ [0x0A]) ++
      Utf8.encodeDropping "\nhi\n"
    ∃ e head, read false data = .ok e ∧ e.header.write? = some head ∧
      head.linesFor "Subject" =
        [Utf8.encodeDropping "Subject: " ++ 0xFF :: Utf8.encodeDropping " x : y" ++ [0xC3]] := by
  intro f before after data
  have succeeds : (read false data).isOk = true := by decide +kernel
  cases reading : read false data with
  | error failure =>
    rw [reading] at succeeds
    cases succeeds
  | ok e =>
    have proper : ∀ g ∈ before ++ f :: after, FieldName.isToken g.read.name = true ∧
        ∀ line ∈ g.read.more, isContinuation line = true := by decide +kernel
    obtain ⟨-, head, written, keeps⟩ := read_keeps_octets reading
    obtain ⟨cores, strips, line⟩ := keeps before f after (by decide +kernel)
      (fun g hg => ⟨isLabel_of_isToken (proper g hg).1, (proper g hg).2⟩) (by decide +kernel)
      (by decide +kernel) (by decide +kernel) (by decide +kernel)
    rw [RawField.forall₂_stripsTo_iff.1 strips] at line
    exact ⟨e, head, rfl, written, line.trans (by decide +kernel)⟩

end Email

end Mailroom
