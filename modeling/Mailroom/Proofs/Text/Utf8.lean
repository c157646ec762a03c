import Mathlib.Algebra.Group.Nat.Defs
import Mathlib.Tactic.SplitIfs
import Mailroom.Proofs.Text.Lines

/-!
# Reading UTF-8

* `Utf8.Sequence.Leads`: a sequence that has begun is the beginning of the octets of some code
  points;
* `Utf8.encode?_decodeKeeping`: octets are written as they were read, well formed or not;
* `Utf8.decodeKeeping_append`: octets are read in parts, if the second part goes on with no
  sequence;
* `Utf8.decodeKeeping_encodeDropping_append`: a text without surrogates is read as it was written;
* `Utf8.exists_encode?_iff`: which texts have octets.
-/

namespace Mailroom

namespace Utf8

/-! ### The octets of a number -/

/-- The octets after the first, with six bits of a number in each. -/
def tail : Nat → Nat → Octets
  | 0, _ => []
  | k + 1, n => UInt8.ofNat (0x80 + n / 0x40 ^ k % 0x40) :: tail k n

theorem encodeNat_two {n : Nat} (low : 0x80 ≤ n) (high : n < 0x800) :
    encodeNat n = UInt8.ofNat (0xC0 + n / 0x40) :: tail 1 n := by
  rw [encodeNat, if_neg (by omega), if_pos high]
  simp [tail]

theorem encodeNat_three {n : Nat} (low : 0x800 ≤ n) (high : n < 0x10000) :
    encodeNat n = UInt8.ofNat (0xE0 + n / 0x1000) :: tail 2 n := by
  rw [encodeNat, if_neg (by omega), if_neg (by omega), if_pos high]
  simp [tail]

theorem encodeNat_four {n : Nat} (low : 0x10000 ≤ n) :
    encodeNat n = UInt8.ofNat (0xF0 + n / 0x40000) :: tail 3 n := by
  rw [encodeNat, if_neg (by omega), if_neg (by omega), if_neg (by omega)]
  simp [tail]

theorem ofNat_eq {n : Nat} {c : CodePoint} (h : n = c.val) : CodePoint.ofNat n = c := by
  rw [h, CodePoint.ofNat, dif_pos c.isLt]

theorem encodeOne?_of_isSurrogate {c : CodePoint} (h : c.isSurrogate = false) :
    encodeOne? c = some (encodeNat c.val) := by
  have free : c.octet? = none := by
    rw [CodePoint.octet?, if_neg]
    simp only [CodePoint.isSurrogate, CodePoint.within, Bool.and_eq_false_iff,
      decide_eq_false_iff_not] at h
    simp only [CodePoint.within, Bool.and_eq_true, decide_eq_true_eq]
    omega
  rw [encodeOne?, free, h]
  rfl

theorem encodeOne?_ofOctet {b : UInt8} (h : 0x80 ≤ b.toNat) :
    encodeOne? (CodePoint.ofOctet b) = some [b] := by
  have lt := b.toNat_lt
  have value : (CodePoint.ofOctet b).val = 0xDC00 + b.toNat := by
    rw [CodePoint.ofOctet, CodePoint.ofNat, dif_pos (by omega)]
  have held : (CodePoint.ofOctet b).octet? = some b := by
    rw [CodePoint.octet?, if_pos, value, Nat.add_sub_cancel_left, UInt8.ofNat_toNat]
    simp only [CodePoint.within, value, Bool.and_eq_true, decide_eq_true_eq]
    omega
  rw [encodeOne?, held]

theorem encode?_map_ofOctet {octets : Octets} (h : ∀ b ∈ octets, 0x80 ≤ b.toNat) :
    encode? (octets.map CodePoint.ofOctet) = some octets := by
  induction octets with
  | nil => rfl
  | cons b octets ih =>
    rw [List.forall_mem_cons] at h
    rw [List.map_cons, encode?_cons, encodeOne?_ofOctet h.1, ih h.2]
    rfl

/-! ### Sequences -/

/-- A sequence that has begun and to which some octets are missing. Each number of which the first
bits are its value is that of a code point, whose octets go on as they have begun, if the next one
may come next. -/
structure Sequence.Leads (s : Sequence) (k : Nat) : Prop where
  missing : s.missing = k + 1
  low : 0x80 ≤ s.low
  high : s.high ≤ 0xBF
  held : ∀ b ∈ s.taken, 0x80 ≤ b.toNat
  encodes : ∀ n, n / 0x40 ^ (k + 1) = s.value → s.low ≤ 0x80 + n / 0x40 ^ k % 0x40 →
    0x80 + n / 0x40 ^ k % 0x40 ≤ s.high →
    ∃ c : CodePoint, c.val = n ∧ c.isSurrogate = false ∧ encodeNat n = s.taken ++ tail (k + 1) n

/-- The first octet leads to what it is the first octet of. -/
theorem leads_of_encodeNat {b : UInt8} {value low high k : Nat} (beyond : 0x80 ≤ b.toNat)
    (hlow : 0x80 ≤ low) (hhigh : high ≤ 0xBF)
    (encodes : ∀ n, n / 0x40 ^ (k + 1) = value → low ≤ 0x80 + n / 0x40 ^ k % 0x40 →
      0x80 + n / 0x40 ^ k % 0x40 ≤ high →
      n < 0x110000 ∧ ¬ (0xD800 ≤ n ∧ n ≤ 0xDFFF) ∧
        encodeNat n = UInt8.ofNat b.toNat :: tail (k + 1) n) :
    Sequence.Leads ⟨value, k + 1, low, high, [b]⟩ k where
  missing := rfl
  low := hlow
  high := hhigh
  held c hc := List.mem_singleton.1 hc ▸ beyond
  encodes n hn next next' := by
    obtain ⟨lt, plain, octets⟩ := encodes n hn next next'
    rw [UInt8.ofNat_toNat] at octets
    exact ⟨⟨n, lt⟩, rfl, by simpa [CodePoint.isSurrogate, CodePoint.within] using plain, octets⟩

/-- The octet that begins two. -/
theorem leads_two {b : UInt8} (low : 0xC2 ≤ b.toNat) (high : b.toNat < 0xE0) :
    Sequence.Leads ⟨b.toNat - 0xC0, 1, 0x80, 0xBF, [b]⟩ 0 := by
  refine leads_of_encodeNat (by omega) (by omega) (by omega) fun n first _ _ => ?_
  have lead : b.toNat = 0xC0 + n / 0x40 := by omega
  refine ⟨by omega, by omega, ?_⟩
  rw [lead]
  exact encodeNat_two (by omega) (by omega)

/-- The octet that begins three, the second of which may not make a shorter form or a surrogate. -/
theorem leads_three {b : UInt8} {value low high : Nat} (begins : b.toNat = 0xE0 + value)
    (bound : value < 0x10) (hlow : 0x80 ≤ low) (hhigh : high ≤ 0xBF)
    (shorter : value = 0 → 0xA0 ≤ low) (surrogate : value = 0xD → high ≤ 0x9F) :
    Sequence.Leads ⟨value, 2, low, high, [b]⟩ 1 := by
  refine leads_of_encodeNat (by omega) hlow hhigh fun n first next next' => ?_
  have lead : b.toNat = 0xE0 + n / 0x1000 := by omega
  have long : 0x800 ≤ n := by omega
  refine ⟨by omega, by omega, ?_⟩
  rw [lead]
  exact encodeNat_three long (by omega)

/-- The octet that begins four, the second of which may not make a shorter form or leave the
range of code points. -/
theorem leads_four {b : UInt8} {value low high : Nat} (begins : b.toNat = 0xF0 + value)
    (bound : value ≤ 4) (hlow : 0x80 ≤ low) (hhigh : high ≤ 0xBF)
    (shorter : value = 0 → 0x90 ≤ low) (beyond : value = 4 → high ≤ 0x8F) :
    Sequence.Leads ⟨value, 3, low, high, [b]⟩ 2 := by
  refine leads_of_encodeNat (by omega) hlow hhigh fun n first next next' => ?_
  have lead : b.toNat = 0xF0 + n / 0x40000 := by omega
  have long : 0x10000 ≤ n := by omega
  refine ⟨by omega, by omega, ?_⟩
  rw [lead]
  exact encodeNat_four long

/-! ### Octets are kept -/

/-- The text of a piece, with every ill-formed octet held. -/
def Piece.text : Piece → Text
  | .char c => [c]
  | .bad octets => octets.map CodePoint.ofOctet

theorem decodeKeeping_eq (octets : Octets) :
    decodeKeeping octets = (pieces octets).flatMap Piece.text := rfl

/-- A step has kept some octets: they are those of the pieces that it gives, followed by those of
the sequence that has begun. -/
structure Keeps (step : List Piece × Option Sequence) (octets : Octets) : Prop where
  leads : ∀ s, step.2 = some s → ∃ k, s.Leads k
  octets : ∃ before, encode? (step.1.flatMap Piece.text) = some before ∧
    before ++ step.2.elim [] Sequence.taken = octets

theorem keeps_ascii {b : UInt8} (ascii : b.toNat < 0x80) :
    Keeps ([.char (CodePoint.ofNat b.toNat)], none) [b] := by
  have value : (CodePoint.ofNat b.toNat).val = b.toNat := by
    rw [CodePoint.ofNat, dif_pos (by omega)]
  have plain := CodePoint.isSurrogate_of_isAscii (c := CodePoint.ofNat b.toNat)
    (decide_eq_true (by omega))
  refine ⟨nofun, [b], ?_, rfl⟩
  show encode? [CodePoint.ofNat b.toNat] = some [b]
  rw [encode?_cons, encodeOne?_of_isSurrogate plain, value, encodeNat, if_pos ascii,
    UInt8.ofNat_toNat]
  rfl

theorem keeps_bad {b : UInt8} (beyond : 0x80 ≤ b.toNat) : Keeps ([.bad [b]], none) [b] := by
  have held : encode? ([b].map CodePoint.ofOctet) = some [b] :=
    encode?_map_ofOctet (by simpa using beyond)
  exact ⟨nofun, [b], held, rfl⟩

theorem keeps_begun {s : Sequence} {k : Nat} (leads : s.Leads k) : Keeps ([], some s) s.taken :=
  ⟨fun _ hs => ⟨k, Option.some.inj hs ▸ leads⟩, [], rfl, rfl⟩

/-- Outside of a sequence, an octet is a code point by itself, or ill-formed, or begins a
sequence. -/
theorem keeps_start (b : UInt8) : Keeps (start b) [b] := by
  unfold start
  simp only [beq_iff_eq]
  split
  · exact keeps_ascii ‹_›
  split
  · exact keeps_bad (by omega)
  split
  · exact keeps_begun (leads_two (by omega) (by omega))
  iterate 3
    split
    · exact keeps_begun (leads_three (by omega) (by omega) (by omega) (by omega) (by omega)
        (by omega))
  iterate 3
    split
    · exact keeps_begun (leads_four (by omega) (by omega) (by omega) (by omega) (by omega)
        (by omega))
  exact keeps_bad (by omega)

theorem keeps_step {s : Sequence} {k : Nat} (leads : s.Leads k) (b : UInt8) :
    Keeps (s.step b) (s.taken ++ [b]) := by
  obtain ⟨missing, low, high, held, encodes⟩ := leads
  unfold Sequence.step
  simp only [Bool.and_eq_true, decide_eq_true_eq]
  split
  · next within =>
    -- the numbers that go on with this octet have its six bits next
    have goesOn : ∀ n, n / 0x40 ^ k = s.value * 0x40 + (b.toNat - 0x80) →
        ∃ c : CodePoint, c.val = n ∧ c.isSurrogate = false ∧
          encodeNat n = s.taken ++ (b :: tail k n) := fun n hn => by
      have first : n / 0x40 ^ (k + 1) = s.value := by
        rw [Nat.pow_succ, ← Nat.div_div_eq_div_mul, hn]
        omega
      have next : 0x80 + n / 0x40 ^ k % 0x40 = b.toNat := by
        rw [hn]
        omega
      obtain ⟨c, hc, plain, octets⟩ := encodes n first (by omega) (by omega)
      rw [tail, next, UInt8.ofNat_toNat] at octets
      exact ⟨c, hc, plain, octets⟩
    split
    · next ends =>
      have k_eq : k = 0 := by omega
      subst k_eq
      obtain ⟨c, hc, plain, octets⟩ := goesOn _ (Nat.div_one _)
      refine ⟨nofun, s.taken ++ [b], ?_, List.append_nil _⟩
      show encode? [CodePoint.ofNat _] = _
      rw [ofNat_eq hc.symm, encode?_cons, encodeOne?_of_isSurrogate plain, hc, octets]
      simp [tail]
    · next more =>
      refine ⟨fun s' hs => ⟨k - 1, ?_⟩, [], rfl, rfl⟩
      obtain ⟨j, rfl⟩ : ∃ j, k = j + 1 := ⟨k - 1, by omega⟩
      rw [← Option.some.inj hs]
      refine ⟨by simp only; omega, Nat.le_refl _, Nat.le_refl _, ?_, fun n hn _ _ => ?_⟩
      · intro c hc
        rcases List.mem_append.1 hc with hc | hc
        · exact held c hc
        · rw [List.mem_singleton.1 hc]
          omega
      · rw [List.append_assoc]
        exact goesOn n hn
  · -- the sequence has ended too early, and the octet is looked at anew
    obtain ⟨leads, before, encoded, whole⟩ := keeps_start b
    refine ⟨leads, s.taken ++ before, ?_, by rw [List.append_assoc, whole]⟩
    rw [List.flatMap_cons, Piece.text, encode?_append, encode?_map_ofOctet held, encoded]
    rfl

theorem encode?_piecesAfter {s : Option Sequence} (leads : ∀ s', s = some s' → ∃ k, s'.Leads k)
    (octets : Octets) :
    encode? ((piecesAfter s octets).flatMap Piece.text) =
      some (s.elim [] Sequence.taken ++ octets) := by
  -- for all sequences at once, as each octet leaves another one behind
  induction octets generalizing s with
  | nil =>
    cases s with
    | none => rfl
    | some s =>
      obtain ⟨k, hs⟩ := leads s rfl
      show encode? (s.taken.map CodePoint.ofOctet ++ []) = some (s.taken ++ [])
      rw [List.append_nil, List.append_nil, encode?_map_ofOctet hs.held]
  | cons b rest ih =>
    -- what the step gives and what it has begun are all that it was given
    have both : ∀ taken {step}, Keeps step (taken ++ [b]) →
        encode? ((step.1 ++ piecesAfter step.2 rest).flatMap Piece.text) =
          some (taken ++ b :: rest) := by
      rintro taken step ⟨leads, before, encoded, whole⟩
      rw [List.flatMap_append, encode?_append, encoded, ih leads]
      show some (before ++ (_ ++ rest)) = _
      rw [← List.append_assoc, whole, List.append_assoc]
      rfl
    cases s with
    | none => exact both [] (keeps_start b)
    | some s =>
      obtain ⟨k, hs⟩ := leads s rfl
      exact both s.taken (keeps_step hs b)

/-- **Octets are kept**, whether or not they are well formed: they are the octets of the text that
is read. -/
theorem encode?_decodeKeeping (octets : Octets) : encode? (decodeKeeping octets) = some octets :=
  encode?_piecesAfter (by simp) octets

/-- Octets without a break are read as a text without one. -/
theorem isUnbroken_decodeKeeping {octets : Octets} (h : octets.IsUnbroken) :
    (decodeKeeping octets).IsUnbroken :=
  (isUnbroken_encode? (encode?_decodeKeeping octets)).1 h

/-! ### Reading octets in parts -/

/-- The octet goes on with no sequence. -/
def IsFresh (b : UInt8) : Prop := b.toNat < 0x80 ∨ 0xBF < b.toNat

theorem piecesAfter_append {s : Option Sequence} (leads : ∀ s', s = some s' → ∃ k, s'.Leads k)
    (left : Octets) {right : Octets} (fresh : ∀ b, right.head? = some b → IsFresh b) :
    piecesAfter s (left ++ right) = piecesAfter s left ++ pieces right := by
  induction left generalizing s with
  | nil =>
    cases s with
    | none => rfl
    | some s =>
      obtain ⟨k, hs⟩ := leads s rfl
      cases right with
      | nil => rfl
      | cons b right =>
        -- the octet is not in the range of the next one, so the sequence ends here
        have low := hs.low
        have high := hs.high
        have := fresh b rfl
        unfold IsFresh at this
        show (s.step b).1 ++ piecesAfter (s.step b).2 right = _
        rw [Sequence.step, if_neg (by simp only [Bool.and_eq_true, decide_eq_true_eq]; omega)]
        rfl
  | cons b left ih =>
    have both : ∀ {step octets}, Keeps step octets →
        step.1 ++ piecesAfter step.2 (left ++ right) =
          step.1 ++ piecesAfter step.2 left ++ pieces right := fun keeps => by
      rw [ih keeps.leads, List.append_assoc]
    cases s with
    | none => exact both (keeps_start b)
    | some s =>
      obtain ⟨k, hs⟩ := leads s rfl
      exact both (keeps_step hs b)

/-- Octets are read in two parts if the second goes on with no sequence. -/
theorem decodeKeeping_append (left : Octets) {right : Octets}
    (fresh : ∀ b, right.head? = some b → IsFresh b) :
    decodeKeeping (left ++ right) = decodeKeeping left ++ decodeKeeping right := by
  rw [decodeKeeping_eq, pieces, piecesAfter_append (by simp) left fresh, List.flatMap_append]
  rfl

/-- Octets are read in two parts around one of the first 128. -/
theorem decodeKeeping_append_cons (left : Octets) {b : UInt8} (ascii : b.toNat < 0x80)
    (right : Octets) :
    decodeKeeping (left ++ b :: right) =
      decodeKeeping left ++ CodePoint.ofNat b.toNat :: decodeKeeping right := by
  have fresh : ∀ c, (b :: right).head? = some c → IsFresh c := fun c hc => by
    rw [← Option.some.inj hc]
    exact .inl ascii
  rw [decodeKeeping_append left fresh, decodeKeeping_eq (b :: right), pieces_cons_ascii ascii]
  rfl

/-! ### Reading what was written -/

/-- The octet that begins two. -/
theorem start_two {n : Nat} (low : 0xC2 ≤ n) (high : n < 0xE0) :
    start (UInt8.ofNat n) = ([], some ⟨n - 0xC0, 1, 0x80, 0xBF, [UInt8.ofNat n]⟩) := by
  unfold start
  simp only [UInt8.toNat_ofNat_of_lt' (show n < 256 by omega)]
  rw [if_neg (by omega), if_neg (by omega), if_pos high]

/-- The octet that begins three, the second of which may not make a shorter form or a surrogate. -/
theorem start_three {n : Nat} (low : 0xE0 ≤ n) (high : n < 0xF0) :
    ∃ lo hi, start (UInt8.ofNat n) = ([], some ⟨n - 0xE0, 2, lo, hi, [UInt8.ofNat n]⟩) ∧
      ∀ m, 0x80 ≤ m → m ≤ 0xBF → (n = 0xE0 → 0xA0 ≤ m) → (n = 0xED → m ≤ 0x9F) →
        lo ≤ m ∧ m ≤ hi := by
  unfold start
  simp only [UInt8.toNat_ofNat_of_lt' (show n < 256 by omega), beq_iff_eq]
  rw [if_neg (by omega), if_neg (by omega), if_neg (by omega)]
  split_ifs with e0 ed
  · exact ⟨0xA0, 0xBF, by rw [e0], fun m _ _ h _ => ⟨h e0, by omega⟩⟩
  · exact ⟨0x80, 0x9F, by rw [ed], fun m _ _ _ h => ⟨by omega, h ed⟩⟩
  · exact ⟨0x80, 0xBF, rfl, fun m _ _ _ _ => ⟨by omega, by omega⟩⟩

/-- The octet that begins four, the second of which may not make a shorter form or leave the
range of code points. -/
theorem start_four {n : Nat} (low : 0xF0 ≤ n) (high : n ≤ 0xF4) :
    ∃ lo hi, start (UInt8.ofNat n) = ([], some ⟨n - 0xF0, 3, lo, hi, [UInt8.ofNat n]⟩) ∧
      ∀ m, 0x80 ≤ m → m ≤ 0xBF → (n = 0xF0 → 0x90 ≤ m) → (n = 0xF4 → m ≤ 0x8F) →
        lo ≤ m ∧ m ≤ hi := by
  unfold start
  simp only [UInt8.toNat_ofNat_of_lt' (show n < 256 by omega), beq_iff_eq]
  rw [if_neg (by omega), if_neg (by omega), if_neg (by omega), if_neg (by omega),
    if_neg (by omega), if_neg (by omega)]
  split_ifs with f0 before f4
  · exact ⟨0x90, 0xBF, by rw [f0], fun m _ _ h _ => ⟨h f0, by omega⟩⟩
  · exact ⟨0x80, 0xBF, rfl, fun m _ _ _ _ => ⟨by omega, by omega⟩⟩
  · exact ⟨0x80, 0x8F, by rw [f4], fun m _ _ _ h => ⟨by omega, h f4⟩⟩
  · omega

/-- An octet that continues a sequence. -/
theorem step_ofNat {value missing lo hi n : Nat} (taken : Octets) (within : lo ≤ n ∧ n ≤ hi)
    (octet : n < 256) :
    Sequence.step ⟨value, missing, lo, hi, taken⟩ (UInt8.ofNat n) =
      if missing ≤ 1 then ([.char (CodePoint.ofNat (value * 0x40 + (n - 0x80)))], none)
      else ([], some ⟨value * 0x40 + (n - 0x80), missing - 1, 0x80, 0xBF,
        taken ++ [UInt8.ofNat n]⟩) := by
  unfold Sequence.step
  simp only [UInt8.toNat_ofNat_of_lt' octet, within.1, within.2, decide_true, Bool.and_true,
    if_true]

/-- The octets after the first complete the number of which a sequence has the first bits. -/
theorem piecesAfter_tail {k n value low high : Nat} (taken : Octets)
    (first : n / 0x40 ^ (k + 1) = value)
    (next : low ≤ 0x80 + n / 0x40 ^ k % 0x40 ∧ 0x80 + n / 0x40 ^ k % 0x40 ≤ high)
    (rest : Octets) :
    piecesAfter (some ⟨value, k + 1, low, high, taken⟩) (tail (k + 1) n ++ rest) =
      .char (CodePoint.ofNat n) :: pieces rest := by
  -- the value is the number without the six bits of each octet that is missing
  induction k generalizing value low high taken with
  | zero =>
    have whole : value * 0x40 + (0x80 + n / 0x40 ^ 0 % 0x40 - 0x80) = n := by omega
    rw [tail, List.cons_append, piecesAfter, step_ofNat taken next (by omega), if_pos (by omega),
      whole]
    rfl
  | succ k ih =>
    have longer : value * 0x40 + (0x80 + n / 0x40 ^ (k + 1) % 0x40 - 0x80) =
        n / 0x40 ^ (k + 1) := by
      rw [Nat.pow_succ, ← Nat.div_div_eq_div_mul] at first
      omega
    rw [tail, List.cons_append, piecesAfter, step_ofNat taken next (by omega), if_neg (by omega),
      longer]
    exact ih _ rfl ⟨by omega, by omega⟩

/-- A code point that is no surrogate is read as itself. -/
theorem pieces_encodeNat {c : CodePoint} (h : c.isSurrogate = false) (rest : Octets) :
    pieces (encodeNat c.val ++ rest) = .char c :: pieces rest := by
  have hlt := c.isLt
  have range : ¬ (0xD800 ≤ c.val ∧ c.val ≤ 0xDFFF) := by
    simpa [CodePoint.isSurrogate, CodePoint.within] using h
  rw [show Piece.char c = .char (CodePoint.ofNat c.val) by rw [ofNat_eq rfl]]
  -- no form is shorter than it may be, and the second of three octets is low after 0xED
  by_cases one : c.val < 0x80
  · have e := UInt8.toNat_ofNat_of_lt' (show c.val < 256 by omega)
    rw [encodeNat, if_pos one, List.singleton_append, pieces_cons_ascii (by omega), e]
  by_cases two : c.val < 0x800
  · rw [encodeNat_two (by omega) two, List.cons_append, pieces, piecesAfter,
      start_two (by omega) (by omega)]
    exact piecesAfter_tail _ (by omega) ⟨by omega, by omega⟩ rest
  by_cases three : c.val < 0x10000
  · obtain ⟨lo, hi, begins, within⟩ :=
      start_three (n := 0xE0 + c.val / 0x1000) (by omega) (by omega)
    rw [encodeNat_three (by omega) three, List.cons_append, pieces, piecesAfter, begins]
    exact piecesAfter_tail _ (by omega) (within _ (by omega) (by omega) (by omega) (by omega)) rest
  · obtain ⟨lo, hi, begins, within⟩ :=
      start_four (n := 0xF0 + c.val / 0x40000) (by omega) (by omega)
    rw [encodeNat_four (by omega), List.cons_append, pieces, piecesAfter, begins]
    exact piecesAfter_tail _ (by omega) (within _ (by omega) (by omega) (by omega) (by omega)) rest

section

variable {t : Text}

theorem encodeDropping_cons {c : CodePoint} (h : c.isSurrogate = false) (t : Text) :
    encodeDropping (c :: t) = encodeNat c.val ++ encodeDropping t := by
  rw [encodeDropping, List.filter_cons_of_pos (by rw [h]; rfl)]
  rfl

/-- The octets of a text without surrogates. -/
theorem encode?_of_plain (plain : ∀ c ∈ t, c.isSurrogate = false) :
    encode? t = some (encodeDropping t) := by
  induction t with
  | nil => rfl
  | cons c t ih =>
    rw [List.forall_mem_cons] at plain
    rw [encode?_cons, encodeOne?_of_isSurrogate plain.1, ih plain.2, encodeDropping_cons plain.1]
    rfl

/-- **A text without surrogates is read as it was written**, whatever follows. -/
theorem decodeKeeping_encodeDropping_append (plain : ∀ c ∈ t, c.isSurrogate = false)
    (rest : Octets) : decodeKeeping (encodeDropping t ++ rest) = t ++ decodeKeeping rest := by
  induction t with
  | nil => rfl
  | cons c t ih =>
    rw [List.forall_mem_cons] at plain
    rw [encodeDropping_cons plain.1, List.append_assoc, decodeKeeping_eq,
      pieces_encodeNat plain.1, List.flatMap_cons, ← decodeKeeping_eq, ih plain.2]
    rfl

theorem decodeKeeping_encodeDropping (plain : ∀ c ∈ t, c.isSurrogate = false) :
    decodeKeeping (encodeDropping t) = t := by
  simpa [decodeKeeping_eq] using decodeKeeping_encodeDropping_append plain []

/-- **A text without surrogates is read as it was written.** -/
theorem decodeKeeping_of_encodeStrict? {octets : Octets} (e : encodeStrict? t = some octets) :
    decodeKeeping octets = t := by
  unfold encodeStrict? at e
  split at e
  · cases e
  · next clean =>
    cases e
    have plain : ∀ c ∈ t, c.isSurrogate = false := by simpa using clean
    have same : encodeDropping t = t.flatMap fun c => encodeNat c.val := by
      rw [encodeDropping, List.filter_eq_self.2 fun c hc => by rw [plain c hc]; rfl]
    rw [← same, decodeKeeping_encodeDropping plain]

theorem isFresh_of_head?_encodeNat {n : Nat} (lt : n < 0x110000) {b : UInt8}
    (h : (encodeNat n).head? = some b) : IsFresh b := by
  unfold encodeNat at h
  unfold IsFresh
  split_ifs at h <;> rw [← Option.some.inj h, UInt8.toNat_ofNat'] <;> omega

/-- A text without surrogates goes on with no sequence, so it may be written behind anything. -/
theorem decodeKeeping_append_encodeDropping (plain : ∀ c ∈ t, c.isSurrogate = false)
    (left : Octets) : decodeKeeping (left ++ encodeDropping t) = decodeKeeping left ++ t := by
  rw [decodeKeeping_append left, decodeKeeping_encodeDropping plain]
  intro b hb
  cases t with
  | nil => cases hb
  | cons c t =>
    rw [encodeDropping_cons (plain c List.mem_cons_self), List.head?_append,
      Option.or_of_isSome (by simp [encodeNat_ne_nil])] at hb
    exact isFresh_of_head?_encodeNat c.isLt hb

end

end Utf8

/-! ### What has octets -/

/-- The code point is no surrogate, or holds an octet. -/
def CodePoint.HasOctets (c : CodePoint) : Prop := (c.isSurrogate && c.octet?.isNone) = false

instance (c : CodePoint) : Decidable c.HasOctets := inferInstanceAs (Decidable (_ = _))

/-- Every code point has octets. -/
def Text.IsEncodable (t : Text) : Prop := ∀ c ∈ t, c.HasOctets

instance (t : Text) : Decidable t.IsEncodable :=
  inferInstanceAs (Decidable (∀ c ∈ t, c.HasOctets))

theorem CodePoint.hasOctets_of_isSurrogate {c : CodePoint} (h : c.isSurrogate = false) :
    c.HasOctets := by
  rw [HasOctets, h, Bool.false_and]

namespace Utf8

theorem exists_encodeOne?_iff {c : CodePoint} :
    (∃ octets, encodeOne? c = some octets) ↔ c.HasOctets := by
  unfold encodeOne? CodePoint.HasOctets
  cases c.octet? <;> cases c.isSurrogate <;> simp

/-- A text has octets exactly if each of its code points has some. -/
theorem exists_encode?_iff {t : Text} : (∃ octets, encode? t = some octets) ↔ t.IsEncodable := by
  induction t with
  | nil => exact iff_of_true ⟨[], rfl⟩ fun c hc => (by cases hc)
  | cons c t ih =>
    rw [Text.IsEncodable, List.forall_mem_cons, ← Text.IsEncodable, ← ih,
      ← exists_encodeOne?_iff, encode?_cons]
    cases encodeOne? c <;> cases encode? t <;> simp

theorem isEncodable_decodeKeeping (octets : Octets) : (decodeKeeping octets).IsEncodable :=
  exists_encode?_iff.1 ⟨octets, encode?_decodeKeeping octets⟩

end Utf8

end Mailroom
