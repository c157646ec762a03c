import Mailroom.Proofs.Header.Order
import Mailroom.Proofs.Text.Lines

/-!
# The lines of a written header

* `Header.write?_eq_some`: a written header is its encoded lines, joined;
* `Header.crlfLines_write?_iff`: they come apart again exactly if no name and no value that is
  written has a break;
* `Octets.linesFor`: the lines for a name;
* `Header.linesFor_write?`: those of a written header are for its fields of that name;
* `Octets.namesBcc`: a line of octets is one for `Bcc`, in any case;
* `Header.not_namesBcc_of_write?`: no written line is.
-/

namespace Mailroom

namespace Header

/-- The fields that are written, in order. -/
def written (h : Header) : List Field := h.sorted.filter fun f => !isHidden f.name

theorem mem_written {h : Header} {f : Field} :
    f ∈ h.written ↔ f ∈ h.fields ∧ isHidden f.name = false := by
  rw [written, List.mem_filter, sorted, (perm_sorted h.fields).mem_iff]
  simp

/-- A written header is its encoded lines, joined. -/
theorem write?_eq_some {h : Header} {head : Octets} (e : h.write? = some head) :
    ∃ lines, (h.written.map line).mapM Utf8.encode? = some lines ∧ head = Framing.join lines := by
  unfold write? at e
  rw [Utf8.encode?_join] at e
  obtain ⟨lines, hlines, rfl⟩ := Option.map_eq_some_iff.1 e
  exact ⟨lines, hlines, rfl⟩

end Header

/-- What holds of encoded lines is what holds of the texts that they come from. -/
theorem Utf8.forall_mapM_encode?_iff {texts : List Text} {lines : List Octets}
    (h : texts.mapM encode? = some lines) {p : Text → Prop} {q : Octets → Prop}
    (hpq : ∀ t ∈ texts, ∀ o, encode? t = some o → (q o ↔ p t)) :
    (∀ o ∈ lines, q o) ↔ ∀ t ∈ texts, p t := by
  induction texts generalizing lines with
  | nil =>
    cases h
    simp
  | cons t texts ih =>
    rw [mapM_encode?_cons] at h
    obtain ⟨o, ho, h⟩ := Option.bind_eq_some_iff.1 h
    obtain ⟨os, hos, rfl⟩ := Option.map_eq_some_iff.1 h
    rw [List.forall_mem_cons, List.forall_mem_cons, hpq t List.mem_cons_self o ho,
      ih hos fun t ht => hpq t (List.mem_cons_of_mem _ ht)]

namespace Header

theorem isUnbroken_line {f : Field} :
    (line f).IsUnbroken ↔ f.name.IsUnbroken ∧ f.first.IsUnbroken := by
  unfold line
  rw [Text.isUnbroken_append, Text.isUnbroken_append]
  have : Text.IsUnbroken (Text.ofString ": ") := by decide
  simp [this]

/-- The lines of a written header come apart again, and leave no break, exactly if no name and no
value that is written has one. -/
theorem crlfLines_write?_iff {h : Header} {head : Octets} (e : h.write? = some head)
    (nonempty : h.written ≠ []) :
    (some (Framing.crlfLines head) = (h.written.map line).mapM Utf8.encode? ∧
        ∀ l ∈ Framing.crlfLines head, l.IsUnbroken) ↔
      ∀ f ∈ h.written, f.name.IsUnbroken ∧ f.first.IsUnbroken := by
  obtain ⟨lines, hlines, rfl⟩ := write?_eq_some e
  have lines_ne_nil : lines ≠ [] := by
    rintro rfl
    cases hw : h.written with
    | nil => exact nonempty hw
    | cons f fields =>
      rw [hw, List.map_cons, Utf8.mapM_encode?_cons] at hlines
      obtain ⟨o, -, hlines⟩ := Option.bind_eq_some_iff.1 hlines
      obtain ⟨os, -, hos⟩ := Option.map_eq_some_iff.1 hlines
      cases hos
  rw [hlines, Option.some.injEq, Framing.crlfLines_join_iff lines_ne_nil,
    Utf8.forall_mapM_encode?_iff hlines fun t _ o ho => Utf8.isUnbroken_encode? ho,
    List.forall_mem_map]
  exact forall₂_congr fun f _ => isUnbroken_line

end Header

/-- There is nothing in a name that would end it: no colon, no blank and no break. -/
def Text.IsName (name : Text) : Prop :=
  ∀ c ∈ name, c.val ≠ 0x3A ∧ c.val ≠ 0x20 ∧ c.val ≠ 0x09 ∧ ¬ c.IsBreak

instance (name : Text) : Decidable name.IsName :=
  inferInstanceAs
    (Decidable (∀ c ∈ name, c.val ≠ 0x3A ∧ c.val ≠ 0x20 ∧ c.val ≠ 0x09 ∧ ¬ c.IsBreak))

/-! ### Lines for a name -/

/-- The lines of a header block for a name: they begin with it, a colon and a space. -/
def Octets.linesFor (name : Text) (head : Octets) : List Octets :=
  (Framing.crlfLines head).filter fun line =>
    (Utf8.encodeDropping (name ++ ": ")).isPrefixOf line

namespace Utf8

/-- Of encoded texts, one of the first 128 code points alone begins another if it does so before. -/
theorem isPrefix_encode?_iff {s t : Text} (ascii : ∀ c ∈ s, c.val < 0x80) {o p : Octets}
    (ho : encode? s = some o) (hp : encode? t = some p) : o <+: p ↔ s <+: t := by
  constructor
  · induction s generalizing t o p with
    | nil => exact fun _ => List.nil_prefix
    | cons c s ih =>
      rw [List.forall_mem_cons] at ascii
      rw [encode?_cons] at ho
      obtain ⟨first, hfirst, ho⟩ := Option.bind_eq_some_iff.1 ho
      obtain ⟨rest, hrest, rfl⟩ := Option.map_eq_some_iff.1 ho
      obtain ⟨-, rfl⟩ := (encodeOne?_cases hfirst).resolve_right fun h => by have := h.1; omega
      rintro ⟨more, rfl⟩
      cases t with
      | nil => cases hp
      | cons d t =>
        have value : (UInt8.ofNat c.val).toNat = c.val := by
          rw [UInt8.toNat_ofNat', Nat.mod_eq_of_lt (by omega)]
        obtain ⟨hd, ht⟩ := encode?_cons_eq_some (by omega) hp
        rw [CodePoint.ext (hd.trans value)]
        exact List.cons_prefix_cons.2 ⟨rfl, ih ascii.2 hrest ht (List.prefix_append _ _)⟩
  · rintro ⟨u, rfl⟩
    rw [encode?_append, ho] at hp
    obtain ⟨q, -, rfl⟩ := Option.map_eq_some_iff.1 hp
    exact List.prefix_append _ _

/-- Encoded lines can be picked out by what the texts are that they come from. -/
theorem mapM_encode?_filter {texts : List Text} {lines : List Octets}
    (h : texts.mapM encode? = some lines) {p : Text → Bool} {q : Octets → Bool}
    (hpq : ∀ t ∈ texts, ∀ o, encode? t = some o → q o = p t) :
    (texts.filter p).mapM encode? = some (lines.filter q) := by
  induction texts generalizing lines with
  | nil =>
    cases h
    rfl
  | cons t texts ih =>
    rw [mapM_encode?_cons] at h
    obtain ⟨o, ho, h⟩ := Option.bind_eq_some_iff.1 h
    obtain ⟨os, hos, rfl⟩ := Option.map_eq_some_iff.1 h
    have others := ih hos fun t ht => hpq t (List.mem_cons_of_mem _ ht)
    rw [List.filter_cons, List.filter_cons, hpq t List.mem_cons_self o ho]
    split
    · rw [mapM_encode?_cons, ho, others]
      rfl
    · exact others

end Utf8

namespace Header

/-- A line begins with a name, a colon and a space exactly if the field has that name. -/
theorem isPrefix_line_iff {name : Text} {f : Field} (hname : name.IsName) (hf : f.name.IsName) :
    name ++ Text.ofString ": " <+: line f ↔ f.name = name := by
  constructor
  · rintro ⟨u, e⟩
    have colon {t : Text} (ht : t.IsName) (rest : Text) :
        (t ++ (Text.ofString ": " ++ rest)).takeWhile (fun c => c.val ≠ 0x3A) = t := by
      rw [List.takeWhile_append_of_pos fun c hc => by simpa using (ht c hc).1]
      exact List.append_nil t
    rw [line, List.append_assoc, List.append_assoc] at e
    rw [← colon hf f.first, ← e, colon hname]
  · rintro rfl
    exact List.prefix_append _ _

/-- The lines of a written header for a name are those of its fields of that name. -/
theorem linesFor_write? {h : Header} {head : Octets} (e : h.write? = some head)
    (nonempty : h.written ≠ [])
    (clean : ∀ f ∈ h.written, f.name.IsName ∧ f.first.IsUnbroken) {name : Text}
    (hname : name.IsName) (ascii : ∀ c ∈ name, c.val < 0x80)
    (encoded : Utf8.encode? (name ++ Text.ofString ": ") =
      some (Utf8.encodeDropping (name ++ Text.ofString ": "))) :
    ((h.written.filter fun f => f.name = name).map line).mapM Utf8.encode? =
      some (head.linesFor name) := by
  obtain ⟨apart, -⟩ := (crlfLines_write?_iff e nonempty).2 fun f hf =>
    ⟨fun c hc => ((clean f hf).1 c hc).2.2.2, (clean f hf).2⟩
  have picked := Utf8.mapM_encode?_filter apart.symm
    (p := fun t => (name ++ Text.ofString ": ").isPrefixOf t)
    (q := fun line => (Utf8.encodeDropping (name ++ Text.ofString ": ")).isPrefixOf line)
    fun t _ o ho => Bool.eq_iff_iff.2 <| by
      rw [List.isPrefixOf_iff_prefix, List.isPrefixOf_iff_prefix]
      refine Utf8.isPrefix_encode?_iff (fun c hc => ?_) encoded ho
      rcases List.mem_append.1 hc with hc | hc
      · exact ascii c hc
      · have : ∀ c ∈ Text.ofString ": ", c.val < 0x80 := by decide
        exact this c hc
  rw [List.filter_map] at picked
  rw [Octets.linesFor, ← picked]
  congr 2
  refine List.filter_congr fun f hf => Bool.eq_iff_iff.2 ?_
  rw [decide_eq_true_iff, Function.comp_apply, List.isPrefixOf_iff_prefix,
    isPrefix_line_iff hname (clean f hf).1]

end Header

/-! ### Lines for hidden recipients -/

/-- The octet of a letter in small. -/
def Octets.toLower (b : UInt8) : UInt8 := if 0x41 ≤ b ∧ b ≤ 0x5A then b + 0x20 else b

/-- The line is one for `Bcc`, in any case: after that name there are but blanks before a colon. -/
def Octets.namesBcc : Octets → Bool
  | b :: c :: d :: rest =>
    toLower b = 0x62 && toLower c = 0x63 && toLower d = 0x63 &&
      (rest.dropWhile fun b => b = 0x20 || b = 0x09).head? = some 0x3A
  | _ => false

theorem Octets.eq_of_toLower_eq {b x : UInt8} (hx : 0x61 ≤ x ∧ x ≤ 0x7A) (h : toLower b = x) :
    b.toNat = x.toNat ∨ b.toNat + 0x20 = x.toNat := by
  subst h
  simp only [toLower, UInt8.le_iff_toNat_le, UInt8.reduceToNat] at *
  split
  · next upper =>
    rw [UInt8.toNat_add]
    simp only [UInt8.reduceToNat]
    omega
  · exact .inl rfl

namespace Utf8

/-- The octets of a text do not begin with a blank or a colon if it does not do so itself. -/
theorem head?_dropWhile_encode? {c : CodePoint} {t : Text} {octets : Octets}
    (h : encode? (c :: t) = some octets) (colon : c.val ≠ 0x3A) (space : c.val ≠ 0x20)
    (tab : c.val ≠ 0x09) :
    (octets.dropWhile fun b => b = 0x20 || b = 0x09).head? ≠ some 0x3A := by
  cases octets with
  | nil => simp
  | cons b octets =>
    have value : b.toNat < 0x80 → c.val = b.toNat := fun hb => (encode?_cons_eq_some hb h).1
    have hb : ∀ x : UInt8, x.toNat < 0x80 → c.val ≠ x.toNat → b ≠ x := by
      rintro x hx hne rfl
      exact hne (value hx)
    rw [List.dropWhile_cons_of_neg (by
      simp [hb 0x20 (by decide) space, hb 0x09 (by decide) tab])]
    simpa using hb 0x3A (by decide) colon

end Utf8

namespace Header

/-- A text that begins with the letters of `Bcc` and is one of the names that are meant to. -/
theorem isHidden_of_letters {x y z : CodePoint} (hx : x.val = 0x62 ∨ x.val = 0x42)
    (hy : y.val = 0x63 ∨ y.val = 0x43) (hz : z.val = 0x63 ∨ z.val = 0x43) :
    isHidden [x, y, z] = true := by
  have letter : ∀ {c : CodePoint} {n : Nat} (hn : n < 0x110000), c.val = n → c = ⟨n, hn⟩ :=
    fun _ h => CodePoint.ext h
  rcases hx with hx | hx <;> rcases hy with hy | hy <;> rcases hz with hz | hz <;>
    rw [letter (by decide) hx, letter (by decide) hy, letter (by decide) hz] <;> decide

/-- A field whose line is one for `Bcc` has that name. -/
theorem isHidden_of_namesBcc {f : Field} (name : f.name.IsName) {octets : Octets}
    (e : Utf8.encode? (line f) = some octets) (h : octets.namesBcc = true) :
    isHidden f.name = true := by
  unfold Octets.namesBcc at h
  split at h
  case h_2 => cases h
  case h_1 b c d rest =>
    simp only [Bool.and_eq_true, decide_eq_true_eq] at h
    obtain ⟨⟨⟨hb, hc⟩, hd⟩, colon⟩ := h
    have hb := Octets.eq_of_toLower_eq (by decide) hb
    have hc := Octets.eq_of_toLower_eq (by decide) hc
    have hd := Octets.eq_of_toLower_eq (by decide) hd
    simp only [UInt8.reduceToNat] at hb hc hd
    -- a name of fewer letters would have the colon after it among the three
    have mark : ∀ {m : CodePoint} {t : Text} {o : Octets} {x : UInt8}, m.val = 0x3A ∨ m.val = 0x20 →
        0x40 < x.toNat → x.toNat < 0x80 → Utf8.encode? (m :: t) ≠ some (x :: o) :=
      fun hm low high e => by
        have := (Utf8.encode?_cons_eq_some high e).1
        omega
    have text : line f = f.name ++ (Text.ofString ": " ++ f.first) := by
      rw [line, List.append_assoc]
    rw [text] at e
    rcases hname : f.name with _ | ⟨x, name₁⟩
    · rw [hname] at e
      exact absurd e (mark (.inl rfl) (by omega) (by omega))
    rw [hname, List.cons_append] at e
    obtain ⟨hx, e⟩ := Utf8.encode?_cons_eq_some (by omega) e
    rcases name₁ with _ | ⟨y, name₂⟩
    · exact absurd e (mark (.inl rfl) (by omega) (by omega))
    rw [List.cons_append] at e
    obtain ⟨hy, e⟩ := Utf8.encode?_cons_eq_some (by omega) e
    rcases name₂ with _ | ⟨z, name₃⟩
    · exact absurd e (mark (.inl rfl) (by omega) (by omega))
    rw [List.cons_append] at e
    obtain ⟨hz, e⟩ := Utf8.encode?_cons_eq_some (by omega) e
    rcases name₃ with _ | ⟨w, name₄⟩
    · exact isHidden_of_letters (by omega) (by omega) (by omega)
    · obtain ⟨hcolon, hspace, htab, -⟩ := name w (by rw [hname]; simp)
      exact absurd colon (Utf8.head?_dropWhile_encode? e hcolon hspace htab)

/-- No line is written for hidden recipients, unless a name or a value breaks a line. -/
theorem not_namesBcc_of_write? {h : Header} {head : Octets} (e : h.write? = some head)
    (names : ∀ f ∈ h.written, f.name.IsName) (values : ∀ f ∈ h.written, f.first.IsUnbroken) :
    ∀ l ∈ Framing.crlfLines head, l.namesBcc = false := by
  by_cases nonempty : h.written = []
  · obtain ⟨lines, hlines, rfl⟩ := write?_eq_some e
    rw [nonempty] at hlines
    cases hlines
    decide
  · have unbroken : ∀ f ∈ h.written, f.name.IsUnbroken ∧ f.first.IsUnbroken := fun f hf =>
      ⟨fun c hc => (names f hf c hc).2.2.2, values f hf⟩
    obtain ⟨apart, -⟩ := (crlfLines_write?_iff e nonempty).2 unbroken
    refine (Utf8.forall_mapM_encode?_iff (p := fun _ => True) apart.symm fun t ht o ho =>
      iff_of_true ?_ trivial).2 fun _ _ => trivial
    obtain ⟨f, hf, rfl⟩ := List.mem_map.1 ht
    rw [Bool.eq_false_iff]
    intro hbcc
    have hidden := isHidden_of_namesBcc (names f hf) ho hbcc
    rw [(mem_written.1 hf).2] at hidden
    cases hidden

end Header

end Mailroom
