import Mailroom.Proofs.Smtp.Safety
import Mailroom.Proofs.Text.Integer
import Mailroom.Proofs.Text.Split

/-!
# Names of servers

A server's name is cut at its last colon, unless that stands inside brackets. The brackets around
the host go, whether or not they match, and what stands behind the colon may be any integer.

* `Smtp.IsCut`, `Smtp.IsHostOf`: the parts of a name, and the host in the first of them;
* `Smtp.Names`: what a name comes to, and `Smtp.names_iff`: that is how it is read;
* `Smtp.ServerName.splitServer_written`: names that are written are read back, and told apart;
* `Smtp.ConnectsAsNamed`, `Smtp.connects_where_named`: whom an attempt connects to, and when there
  can be nobody.
-/

namespace Mailroom.Smtp

/-! ### The parts of a name -/

/-- The host part and the port part of a name: what stands around its last colon, or the whole name
and nothing if it has no colon, or a closing bracket behind the last one. -/
inductive IsCut : Text → Text → Text → Prop
  | atColon {host port : Text} (last : CodePoint.ofChar ':' ∉ port)
      (outside : CodePoint.ofChar ']' ∉ port) : IsCut (host ++ CodePoint.ofChar ':' :: port) host port
  | inside {host port : Text} (last : CodePoint.ofChar ':' ∉ port)
      (inside : CodePoint.ofChar ']' ∈ port) :
      IsCut (host ++ CodePoint.ofChar ':' :: port) (host ++ CodePoint.ofChar ':' :: port) []
  | whole {server : Text} (noColon : CodePoint.ofChar ':' ∉ server) : IsCut server server []

theorem any_closing_iff {t : Text} :
    (t.any fun c => c.val == 0x5D) = true ↔ CodePoint.ofChar ']' ∈ t := by
  rw [List.any_eq_true]
  constructor
  · rintro ⟨c, hc, closing⟩
    have same : c = CodePoint.ofChar ']' := CodePoint.ext (beq_iff_eq.1 closing)
    rwa [← same]
  · exact fun h => ⟨_, h, rfl⟩

/-- A name is cut in one way. -/
theorem isCut_iff {server host port : Text} :
    IsCut server host port ↔ cutPort server = (host, port) := by
  constructor
  · rintro (⟨last, outside⟩ | ⟨last, inside⟩ | noColon) <;> rw [cutPort]
    · rw [Text.cutLast?_eq_some_iff.2 ⟨rfl, last⟩]
      exact if_neg (by rwa [any_closing_iff])
    · rw [Text.cutLast?_eq_some_iff.2 ⟨rfl, last⟩]
      exact if_pos (by rwa [any_closing_iff])
    · rw [Text.cutLast?_eq_none_iff.2 noColon]
  · intro h
    rw [cutPort] at h
    cases cut : Text.cutLast? ':' server with
    | none =>
      rw [cut] at h
      cases h
      exact .whole (Text.cutLast?_eq_none_iff.1 cut)
    | some parts =>
      obtain ⟨before, after⟩ := parts
      obtain ⟨rfl, last⟩ := Text.cutLast?_eq_some_iff.1 cut
      rw [cut] at h
      by_cases closing : CodePoint.ofChar ']' ∈ after
      · simp only [if_pos (any_closing_iff.2 closing)] at h
        cases h
        exact .inside last closing
      · simp only [if_neg (mt any_closing_iff.1 closing)] at h
        cases h
        exact .atColon last closing

/-- A number behind a colon is cut off. -/
theorem isCut_ofNat (host : Text) (n : Nat) :
    IsCut (host ++ ":" ++ Text.ofNat n) host (Text.ofNat n) := by
  have unmarked {c : Char} (hc : (CodePoint.ofChar c).isAsciiDigit = false) :
      CodePoint.ofChar c ∉ Text.ofNat n := by
    intro h
    cases hc.symm.trans (Text.isAsciiDigit_of_mem_ofNat h)
  rw [List.append_assoc]
  exact .atColon (unmarked (by decide)) (unmarked (by decide))

/-- Nothing is cut off in front of a closing bracket at the end. -/
theorem isCut_closed (t : Text) : IsCut (t ++ "]") (t ++ "]") [] := by
  cases cut : Text.cutLast? ':' (t ++ "]") with
  | none => exact .whole (Text.cutLast?_eq_none_iff.1 cut)
  | some parts =>
    obtain ⟨before, after⟩ := parts
    obtain ⟨whole, last⟩ := Text.cutLast?_eq_some_iff.1 cut
    have final : (CodePoint.ofChar ':' :: after).getLast? = some (CodePoint.ofChar ']') := by
      rw [← List.getLast?_append_of_ne_nil before (by simp), ← whole]
      exact List.getLast?_concat
    have closing : CodePoint.ofChar ']' ∈ after :=
      (List.mem_cons.1 (List.mem_of_getLast? final)).resolve_left (by decide)
    rw [whole]
    exact .inside last closing

/-- The host in a host part: what is left without the brackets at both ends. -/
structure IsHostOf (part host : Text) : Prop where
  nonempty : host ≠ []
  ends : host.EndsOutside isBracket
  between : ∃ l r, part = l ++ host ++ r ∧ (∀ c ∈ l, isBracket c = true) ∧
    ∀ c ∈ r, isBracket c = true

theorem isHostOf_iff {part host : Text} :
    IsHostOf part host ↔ host ≠ [] ∧ Text.trimWhere isBracket part = host := by
  rw [Text.trimWhere_eq_iff]
  exact ⟨fun h => ⟨h.nonempty, h.ends, h.between⟩, fun ⟨nonempty, ends, between⟩ =>
    ⟨nonempty, ends, between⟩⟩

theorem IsHostOf.trimWhere_eq {part host : Text} (h : IsHostOf part host) :
    Text.trimWhere isBracket part = host := (isHostOf_iff.1 h).2

/-- A host that holds no brackets is one between any brackets. -/
theorem isHostOf_of_forall {host l r : Text} (nonempty : host ≠ [])
    (noBrackets : ∀ c ∈ host, isBracket c = false) (left : ∀ c ∈ l, isBracket c = true)
    (right : ∀ c ∈ r, isBracket c = true) : IsHostOf (l ++ host ++ r) host :=
  ⟨nonempty, Text.endsOutside_of_forall noBrackets, l, r, rfl, left, right⟩

/-! ### What a name comes to -/

/-- What a server's name comes to. -/
inductive Names (server : Text) : Except ServerFault (Text × Int) → Prop
  | noHost {part portPart : Text} (cut : IsCut server part portPart)
      (brackets : ∀ c ∈ part, isBracket c = true) : Names server (.error (.noHost server))
  | badPort {part host portPart : Text} (cut : IsCut server part portPart)
      (isHost : IsHostOf part host) (nonempty : portPart ≠ [])
      (noInteger : ∀ n, ¬ Text.IsInteger portPart n) : Names server (.error (.badPort server))
  | unnumbered {part host : Text} (cut : IsCut server part []) (isHost : IsHostOf part host) :
      Names server (.ok (host, defaultPort))
  | numbered {part host portPart : Text} {n : Int} (cut : IsCut server part portPart)
      (isHost : IsHostOf part host) (integer : Text.IsInteger portPart n) :
      Names server (.ok (host, n))

theorem splitServer_of_isHostOf {server part host portPart : Text}
    (cut : IsCut server part portPart) (isHost : IsHostOf part host) :
    splitServer server =
      if portPart.isEmpty then .ok (host, defaultPort)
      else match Text.toInt? portPart with
        | some n => .ok (host, n)
        | none => .error (.badPort server) := by
  rw [splitServer, isCut_iff.1 cut]
  dsimp only
  rw [isHost.trimWhere_eq]
  exact if_neg (by simpa using isHost.nonempty)

theorem not_isInteger_nil (n : Int) : ¬ Text.IsInteger [] n := by
  rw [← Text.toInt?_eq_some_iff]
  nofun

/-- **How a name is read.** -/
theorem names_iff {server : Text} {outcome : Except ServerFault (Text × Int)} :
    Names server outcome ↔ splitServer server = outcome := by
  constructor
  · intro h
    cases h with
    | noHost cut brackets =>
      rw [splitServer, isCut_iff.1 cut]
      simp only [Text.trimWhere_eq_nil_iff.2 brackets]
      rfl
    | badPort cut isHost nonempty noInteger =>
      rw [splitServer_of_isHostOf cut isHost, if_neg (by simpa using nonempty)]
      have unread : Text.toInt? _ = none := Option.eq_none_iff_forall_ne_some.2 fun n read =>
        noInteger n (Text.toInt?_eq_some_iff.1 read)
      rw [unread]
    | unnumbered cut isHost => exact splitServer_of_isHostOf cut isHost
    | @numbered _ _ portPart n cut isHost integer =>
      have nonempty : portPart ≠ [] := by
        rintro rfl
        exact not_isInteger_nil n integer
      rw [splitServer_of_isHostOf cut isHost, if_neg (by simpa using nonempty),
        Text.toInt?_eq_some_iff.2 integer]
  · rintro rfl
    obtain ⟨part, portPart, hparts⟩ : ∃ part portPart, cutPort server = (part, portPart) :=
      ⟨_, _, rfl⟩
    have cut : IsCut server part portPart := isCut_iff.2 hparts
    by_cases empty : Text.trimWhere isBracket part = []
    · have brackets := Text.trimWhere_eq_nil_iff.1 empty
      rw [splitServer, hparts]
      simp only [empty, List.isEmpty_nil, if_true]
      exact .noHost cut brackets
    · have isHost : IsHostOf part _ := isHostOf_iff.2 ⟨empty, rfl⟩
      rw [splitServer_of_isHostOf cut isHost]
      by_cases none : portPart = []
      · subst none
        exact .unnumbered cut isHost
      · rw [if_neg (by simpa using none)]
        cases read : Text.toInt? portPart with
        | some n => exact .numbered cut isHost (Text.toInt?_eq_some_iff.1 read)
        | none =>
          refine .badPort cut isHost none fun n integer => ?_
          cases read.symm.trans (Text.toInt?_eq_some_iff.2 integer)

/-! ### Names as they are written -/

/-- A host, with its port if that is written out, and whether brackets stand around the host. -/
structure ServerName where
  host : Text
  isBracketed : Bool
  port : Option Nat

namespace ServerName

/-- The name as it is written. -/
def written (a : ServerName) : Text :=
  let host := if a.isBracketed then "[" ++ a.host ++ "]" else a.host
  match a.port with
  | none => host
  | some n => host ++ ":" ++ Text.ofNat n

/-- The port that is meant. -/
def effectivePort (a : ServerName) : Int :=
  match a.port with
  | none => 25
  | some n => n

/-- Hosts hold no brackets, and a colon only between brackets; the port is not too long. -/
structure IsProper (a : ServerName) : Prop where
  nonempty : a.host ≠ []
  noBrackets : ∀ c ∈ a.host, isBracket c = false
  noColon : a.isBracketed = false → CodePoint.ofChar ':' ∉ a.host
  short : ∀ n, a.port = some n → (Text.ofNat n).length ≤ 4300

variable {a b : ServerName}

/-- The host part of a proper name is cut from its port. -/
theorem IsProper.isCut (proper : a.IsProper) :
    ∃ l r, (∀ c ∈ l, isBracket c = true) ∧ (∀ c ∈ r, isBracket c = true) ∧
      IsCut a.written (l ++ a.host ++ r) ((a.port.map Text.ofNat).getD []) := by
  obtain ⟨host, isBracketed, port⟩ := a
  cases isBracketed with
  | false =>
    refine ⟨[], [], nofun, nofun, ?_⟩
    rw [List.nil_append, List.append_nil]
    cases port with
    | none => exact .whole (proper.noColon rfl)
    | some n => exact isCut_ofNat host n
  | true =>
    refine ⟨"[", "]", by decide, by decide, ?_⟩
    cases port with
    | none => exact isCut_closed ("[" ++ host)
    | some n => exact isCut_ofNat ("[" ++ host ++ "]") n

/-- A proper name comes to its host and the port that is meant. -/
theorem IsProper.names (proper : a.IsProper) :
    Names a.written (.ok (a.host, a.effectivePort)) := by
  obtain ⟨l, r, left, right, cut⟩ := proper.isCut
  have isHost := isHostOf_of_forall proper.nonempty proper.noBrackets left right
  cases hp : a.port with
  | none =>
    rw [hp] at cut
    simpa [effectivePort, hp, defaultPort] using Names.unnumbered cut isHost
  | some n =>
    rw [hp] at cut
    have integer : Text.IsInteger (Text.ofNat n) n :=
      Text.toInt?_eq_some_iff.1 (Text.toInt?_ofNat (proper.short n hp))
    simpa [effectivePort, hp] using Names.numbered cut isHost integer

/-- **A name that is written is read back**, and two of them are read alike only if their hosts and
the ports that are meant are the same. -/
theorem splitServer_written (proper : a.IsProper) (proper' : b.IsProper) :
    splitServer a.written = .ok (a.host, a.effectivePort) ∧
      (splitServer a.written = splitServer b.written ↔
        a.host = b.host ∧ a.effectivePort = b.effectivePort) := by
  have read {a : ServerName} (proper : a.IsProper) :
      splitServer a.written = .ok (a.host, a.effectivePort) := names_iff.1 proper.names
  refine ⟨read proper, ?_⟩
  rw [read proper, read proper', Except.ok.injEq, Prod.mk.injEq]

/-- A host in brackets, and one without a port. -/
theorem loopback_written :
    splitServer "[::1]:2525" = .ok ("::1", 2525) ∧
      (splitServer "[::1]:2525" = splitServer "smtp.example.com" ↔
        Text.ofString "::1" = "smtp.example.com" ∧ (2525 : Int) = 25) := by
  have loopback : IsProper ⟨"::1", true, some 2525⟩ :=
    ⟨by decide, by decide, by decide, by simp; decide⟩
  have plain : IsProper ⟨"smtp.example.com", false, none⟩ :=
    ⟨by decide, by decide, by decide, by simp⟩
  exact splitServer_written loopback plain

end ServerName

/-! ### Whom an attempt connects to -/

/-- An address that a connection can be made to. -/
structure IsPossible (host : Text) (port : Int) : Prop where
  nonempty : host ≠ []
  noBrackets : ∀ c ∈ host, isBracket c = false
  inRange : 0 ≤ port ∧ port ≤ 65535

/-- A name is let through to a connection that cannot be made: a bracket is left inside the host, or
the port is out of range. -/
inductive IsSlip (server : Text) : Prop
  | bracket {part host portPart : Text} {c : CodePoint} (cut : IsCut server part portPart)
      (isHost : IsHostOf part host) (inner : c ∈ host) (isBracket : isBracket c = true)
      (port : portPart = [] ∨ ∃ n, Text.IsInteger portPart n)
  | port {part host portPart : Text} {n : Int} (cut : IsCut server part portPart)
      (isHost : IsHostOf part host) (integer : Text.IsInteger portPart n)
      (outOfRange : n < 0 ∨ 65535 < n)

theorem isSlip_iff {server : Text} :
    IsSlip server ↔ ∃ host port, splitServer server = .ok (host, port) ∧ ¬ IsPossible host port := by
  constructor
  · rintro (⟨cut, isHost, inner, bracket, rfl | ⟨n, integer⟩⟩ | ⟨cut, isHost, integer, outOfRange⟩)
    · refine ⟨_, _, names_iff.1 (.unnumbered cut isHost), fun possible => ?_⟩
      simp [possible.noBrackets _ inner] at bracket
    · refine ⟨_, _, names_iff.1 (.numbered cut isHost integer), fun possible => ?_⟩
      simp [possible.noBrackets _ inner] at bracket
    · refine ⟨_, _, names_iff.1 (.numbered cut isHost integer), fun possible => ?_⟩
      have := possible.inRange
      omega
  · rintro ⟨host, port, read, impossible⟩
    by_cases bracket : ∃ c ∈ host, isBracket c = true
    · obtain ⟨c, inner, bracket⟩ := bracket
      cases names_iff.2 read with
      | unnumbered cut isHost => exact .bracket cut isHost inner bracket (.inl rfl)
      | numbered cut isHost integer => exact .bracket cut isHost inner bracket (.inr ⟨_, integer⟩)
    · have noBrackets : ∀ c ∈ host, isBracket c = false := by simpa using bracket
      cases names_iff.2 read with
      | unnumbered cut isHost =>
        exact absurd ⟨isHost.nonempty, noBrackets, by decide⟩ impossible
      | numbered cut isHost integer =>
        refine .port cut isHost integer ?_
        by_contra inRange
        exact impossible ⟨isHost.nonempty, noBrackets, by omega⟩

section Attempts

variable (server : Server) (timeout : Timeout) (name : Text) (auth : Option Credentials)
  (sender : Text) (recipients : List Text) (message : Octets)

/-- Connecting to the host and port of the name is said first, and not again. -/
theorem connects_of_splitServer {host : Text} {port : Int}
    (read : splitServer name = .ok (host, port)) :
    ∃ rest, (deliver server timeout name (auth.map .credentials) sender recipients
        message).journal.calls = .connect host port timeout :: rest ∧
      ∀ call ∈ rest, call.kind ≠ .connect := by
  rcases deliver_cases server auth sender recipients message timeout name with
    ⟨fault, unread, -⟩ | ⟨host', port', read', ⟨-, -, calls, -⟩ | ⟨-, said, _, conversed, calls, -⟩⟩
  · cases read.symm.trans unread
  · cases read.symm.trans read'
    exact ⟨[], calls, nofun⟩
  · cases read.symm.trans read'
    refine ⟨_, calls, ?_⟩
    have once : timesSaid .connect (.connect host port timeout :: said ++ [.quit]) ≤ 1 :=
      conversed.timesSaid_le_one (by decide)
    rw [timesSaid, List.cons_append, List.countP_cons_of_pos (by rfl)] at once
    have noMore := List.countP_eq_zero.1 (Nat.le_zero.1 (Nat.le_of_succ_le_succ once))
    simpa using noMore

/-- What an attempt makes of the name of a server. -/
structure ConnectsAsNamed (attempt : Delivery) : Prop where
  /-- It connects once, to the address that the name comes to, or to nobody and fails if that is
  none. -/
  named : ∃ outcome, Names name outcome ∧ splitServer name = outcome ∧ match outcome with
    | .error fault =>
      attempt.journal.calls = [] ∧ attempt.result = .error (.delivery (.server fault))
    | .ok (host, port) => ∃ rest, attempt.journal.calls = .connect host port timeout :: rest ∧
      ∀ call ∈ rest, call.kind ≠ .connect
  /-- The names that are let through to a connection that cannot be made are the slips. -/
  slip_iff : (∃ host port, .connect host port timeout ∈ attempt.journal.calls ∧
    ¬ IsPossible host port) ↔ IsSlip name

/-- **An attempt connects just where the name of the server says**, whatever the server does. -/
theorem connects_where_named : ConnectsAsNamed timeout name
    (deliver server timeout name (auth.map .credentials) sender recipients message) := by
  cases read : splitServer name with
  | error fault =>
    have silent : (deliver server timeout name (auth.map .credentials) sender recipients
        message).journal.calls = [] := by simp [deliver, read, Journal.calls]
    refine ⟨⟨_, names_iff.2 read, read, silent, by simp [deliver, read]⟩, ?_⟩
    rw [isSlip_iff, read, silent]
    simp
  | ok address =>
    obtain ⟨host, port⟩ := address
    obtain ⟨rest, calls, noMore⟩ :=
      connects_of_splitServer server timeout name auth sender recipients message read
    refine ⟨⟨_, names_iff.2 read, read, rest, calls, noMore⟩, ?_⟩
    rw [isSlip_iff, read, calls]
    constructor
    · rintro ⟨host', port', said, impossible⟩
      rcases List.mem_cons.1 said with same | said
      · cases same
        exact ⟨host, port, rfl, impossible⟩
      · exact absurd rfl (noMore _ said)
    · rintro ⟨host', port', same, impossible⟩
      cases same
      exact ⟨host, port, List.mem_cons_self, impossible⟩

end Attempts

/-- A port that is too large, and brackets that do not match, are let through. -/
theorem largePort_connects :
    IsSlip "h:99999" ∧ splitServer "h:99999" = .ok ("h", 99999) ∧ ¬ IsPossible "h" 99999 ∧
      IsSlip "a[b" ∧ splitServer "a[b" = .ok ("a[b", 25) ∧ ¬ IsPossible "a[b" 25 := by
  have large : splitServer "h:99999" = .ok ("h", 99999) := by decide +kernel
  have broken : splitServer "a[b" = .ok ("a[b", 25) := by decide +kernel
  have outOfRange : ¬ IsPossible "h" 99999 := fun possible => by
    have := possible.inRange
    omega
  have bracket : ¬ IsPossible "a[b" 25 := fun possible => by
    have := possible.noBrackets '[' (by decide)
    cases this
  exact ⟨isSlip_iff.2 ⟨_, _, large, outOfRange⟩, large, outOfRange,
    isSlip_iff.2 ⟨_, _, broken, bracket⟩, broken, bracket⟩

end Mailroom.Smtp
