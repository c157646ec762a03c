import Mailroom.Address.AddrSpec

/-!
# Mailboxes, groups and lists of them

* `Mailbox`: an address by itself or in angle brackets after a display name;
* `Group`: a name, a colon, mailboxes and a semicolon;
* `Listing`: the entries of a whole list. Reading it never stops at a malformed entry:
  the entry is passed over up to the next comma and noted as a defect.
-/

namespace Mailroom.Address

/-- An address in angle brackets. -/
structure Angle where
  before : Option Filler
  route : Option Route
  spec : Option AddrSpec
  unclosed : Bool
  after : Option Filler
deriving DecidableEq

namespace Angle

/-- The defects of an address in angle brackets, its own first. -/
def defects (a : Angle) : List Defect :=
  (if a.spec.isNone then [.nullAddress] else []) ++ (if a.unclosed then [.openAngle] else [])
    ++ fillerDefects a.before ++ (a.route.map Route.defects).getD []
    ++ (a.spec.map AddrSpec.defects).getD [] ++ fillerDefects a.after

/-- The address in angle brackets at the beginning of a text, with what follows it. -/
def read (t : Text) : Except Halt (Angle × Text) :=
  if t.isEmpty then .error .pastEndOfText
  else
    let (before, t) := Filler.skip t
    match t with
    | [] => .error .mismatch
    | c :: t =>
      if c.val != 0x3C then .error .mismatch
      else match t with
        | [] => .error .pastEndOfText
        | d :: rest =>
          if d.val == 0x3E then .ok (⟨before, none, none, false, none⟩, rest)
          else do
            let ((route, spec), t) ← Halt.orElse
              (do let (spec, t) ← AddrSpec.read t; pure ((none, spec), t))
              (fun _ => do
                let (route, t) ← Route.read t
                let (spec, t) ← AddrSpec.read t
                pure ((some route, spec), t))
            let closed := Lexeme.headIs (·.val == 0x3E) t
            let (after, t) := Filler.skip (if closed then t.drop 1 else t)
            return (⟨before, route, some spec, !closed, after⟩, t)

end Angle

/-- A single address. -/
inductive Mailbox where
  | plain (spec : AddrSpec)
  | angle (name : Option Phrase) (address : Angle)
deriving DecidableEq

/-- What is taken from a mailbox. -/
structure Parts where
  name : Text
  localPart : Text
  domain : Text
deriving DecidableEq

namespace Mailbox

/-- The defects of a mailbox, from left to right. -/
def defects : Mailbox → List Defect
  | plain spec => spec.defects
  | angle name address => (name.map Phrase.defects).getD [] ++ address.defects

/-- A filler goes to the first word of a name, which a dot cannot take. -/
def attachFiller (filler : Option Filler) (name : Phrase) : Except Halt Phrase :=
  match filler, name.items with
  | none, _ => .ok name
  | some f, .word w :: items =>
    .ok { name with items := .word { w with before := some f } :: items }
  | some _, .dot :: _ => .error (.breakdown .fillerBeforeDot)
  | some _, _ => .ok name

/-- The address in angle brackets with its name, if there is one. -/
def readAngle (t : Text) : Except Halt (Mailbox × Text) :=
  if t.isEmpty then .error .pastEndOfText
  else
    let (before, t) := Filler.skip t
    match t with
    | [] => .error .mismatch
    | c :: _ =>
      if c.val == 0x3C then do
        let (address, rest) ← Angle.read t
        return (.angle none { address with before := before }, rest)
      else if Lexeme.endsPhrase c then .error .mismatch
      else
        let (name, rest) := Phrase.read t
        if rest.isEmpty then .error .mismatch
        else do
          let name ← attachFiller before name
          let (address, rest) ← Angle.read rest
          return (.angle (some name) address, rest)

/-- The mailbox at the beginning of a text, with what follows it. -/
def read (t : Text) : Except Halt (Mailbox × Text) :=
  Halt.orElse (readAngle t) fun _ => do
    let (spec, rest) ← AddrSpec.read t
    return (.plain spec, rest)

/-- The local part and domain of a mailbox, if it has them. -/
def spec? : Mailbox → Option AddrSpec
  | plain spec => some spec
  | angle _ address => address.spec

/-- The name, local part and domain; a part that is not there is empty. -/
def parts (m : Mailbox) : Except Halt Parts := do
  let name ← match m with
    | angle (some name) _ => name.name
    | _ => .ok []
  let localPart ← match m.spec? with
    | some spec => spec.localPart.text
    | none => .ok []
  let domain := ((m.spec?.bind (·.domain)).map Domain.text).getD []
  return ⟨name, localPart, domain⟩

end Mailbox

/-- The text after a malformed mailbox, which goes on to one of some code points outside
of quotations and comments; at most as many phrases as the fuel allows are passed over. -/
def passOver (ends : Text) : Nat → Text → Text
  | 0, t => t
  | fuel + 1, t => match t with
    | [] => []
    | c :: rest =>
      if ends.contains c then t
      else if Lexeme.endsPhrase c then passOver ends fuel rest
      else passOver ends fuel (Phrase.read t).2

/-- A member of a group. -/
inductive Member where
  | mailbox (mailbox : Mailbox)
  | invalid
  | filler (filler : Filler)
deriving DecidableEq

/-- The members of a group, and whether one of them is malformed. -/
structure Members where
  items : List Member
  broken : Bool
deriving DecidableEq

namespace Members

/-- The defects of a member. -/
def itemDefects : Member → List Defect
  | .mailbox m => m.defects
  | .invalid => []
  | .filler f => commentDefects f.unclosed

/-- The defects of the members of a group. -/
def defects (m : Members) : List Defect :=
  (if m.broken then [.invalidMember] else []) ++ m.items.flatMap itemDefects

/-- One member, whether it is malformed, and what follows it. An empty place is no member. -/
def readOne (t : Text) : Except Halt ((List Member × Bool) × Text) :=
  match Mailbox.read t with
  | .ok (mailbox, rest) => .ok (([.mailbox mailbox], false), rest)
  | .error .mismatch => match Filler.take? t with
    | some (filler, rest) =>
      if Lexeme.headIs (fun c => c.val != 0x2C && c.val != 0x3B) rest then
        .ok (([.invalid], true), passOver ",;" rest.length rest)
      else .ok (([.filler filler], false), rest)
    | none =>
      if Lexeme.headIs (·.val == 0x2C) t then .ok (([], false), t)
      else .ok (([.invalid], true), passOver ",;" t.length t)
  | .error halt => .error halt

/-- The members up to a semicolon or the end, at most as many as the fuel allows. -/
def readItems : Nat → Text → Except Halt (Members × Text)
  | 0, t => .ok (⟨[], false⟩, t)
  | fuel + 1, t =>
    if t.isEmpty || Lexeme.headIs (·.val == 0x3B) t then .ok (⟨[], false⟩, t)
    else do
      let ((first, malformed), t) ← readOne t
      let excess := Lexeme.headIs (fun c => c.val != 0x2C && c.val != 0x3B) t
      let t := if excess then passOver ",;" t.length t else t
      let t := if Lexeme.headIs (·.val == 0x2C) t then t.drop 1 else t
      let (more, t) ← readItems fuel t
      return (⟨first ++ more.items, malformed || excess || more.broken⟩, t)

/-- The members of a group, with the filler before them. -/
def read (t : Text) : Except Halt (Members × Text) :=
  let (before, t) := Filler.skip t
  let lead : List Member := (before.map Member.filler).toList
  do
    let (members, t) ← readItems t.length t
    return ({ members with items := lead ++ members.items }, t)

end Members

/-- Mailboxes under a name. -/
structure Group where
  name : Phrase
  members : Members
  unclosed : Bool
  after : Option Filler
deriving DecidableEq

namespace Group

/-- The defects of a group, its own first. -/
def defects (g : Group) : List Defect :=
  (if g.unclosed then [.openGroup] else []) ++ g.name.defects ++ g.members.defects
    ++ fillerDefects g.after

/-- The group at the beginning of a text, with what follows it. -/
def read (t : Text) : Except Halt (Group × Text) :=
  let (name, t) := Phrase.read t
  match t with
  | [] => .error .mismatch
  | c :: t =>
    if c.val != 0x3A then .error .mismatch
    else if Lexeme.headIs (·.val == 0x3B) t then
      .ok (⟨name, ⟨[], false⟩, false, none⟩, t.drop 1)
    else do
      let (members, t) ← Members.read t
      let (after, rest) := Filler.skip (t.drop 1)
      return (⟨name, members, t.isEmpty, after⟩, rest)

end Group

/-- An entry of a list. -/
inductive Entry where
  | mailbox (mailbox : Mailbox)
  | group (group : Group) (excess : Bool)
  | invalid
  | filler (filler : Filler)
deriving DecidableEq

/-- The entries of a list, and whether one of them is malformed. -/
structure Listing where
  entries : List Entry
  broken : Bool
deriving DecidableEq

namespace Listing

/-- The defects of an entry. -/
def entryDefects : Entry → List Defect
  | .mailbox m => m.defects
  | .group g _ => g.defects
  | .invalid => []
  | .filler f => commentDefects f.unclosed

/-- The defects of a list, its own first. -/
def defects (l : Listing) : List Defect :=
  (if l.broken then [.invalidEntry] else []) ++ l.entries.flatMap entryDefects

/-- A group or a mailbox, with what follows it. -/
def readAddress (t : Text) : Except Halt (Entry × Text) :=
  Halt.orElse
    (do
      let (group, rest) ← Group.read t
      return (.group group (Lexeme.headIs (·.val != 0x2C) rest), rest))
    (fun _ => do
      let (mailbox, rest) ← Mailbox.read t
      return (.mailbox mailbox, rest))

/-- One entry, whether it is malformed, and what follows it. An empty place is no entry. -/
def readOne (t : Text) : Except Halt ((List Entry × Bool) × Text) :=
  match readAddress t with
  | .ok (entry, rest) => .ok (([entry], false), rest)
  | .error .mismatch => match Filler.take? t with
    | some (filler, rest) =>
      if Lexeme.headIs (·.val != 0x2C) rest then
        .ok (([.invalid], true), passOver "," rest.length rest)
      else .ok (([.filler filler], false), rest)
    | none =>
      if Lexeme.headIs (·.val == 0x2C) t then .ok (([], false), t)
      else .ok (([.invalid], true), passOver "," t.length t)
  | .error halt => .error halt

/-- The entries up to the end, at most as many as the fuel allows. -/
def readEntries : Nat → Text → Except Halt Listing
  | 0, _ => .ok ⟨[], false⟩
  | fuel + 1, t =>
    if t.isEmpty then .ok ⟨[], false⟩
    else do
      let ((first, malformed), t) ← readOne t
      let excess := Lexeme.headIs (·.val != 0x2C) t
      let t := if excess then passOver "," t.length t else t
      let more ← readEntries fuel (t.drop 1)
      return ⟨first ++ more.entries, malformed || excess || more.broken⟩

/-- The entries of a whole text. -/
def read (t : Text) : Except Halt Listing := readEntries t.length t

end Listing

end Mailroom.Address
