import Mailroom.Address.Basic
import Mailroom.Address.Listing
import Mailroom.Text.Quoted

/-!
# Reading address lists

* `Address.ListFault`: why a text is no address list;
* `Address.Fault`: the errors of `AddressList.parse` and `Address.parse`, with their wording;
* `AddressList.parse`: the addresses of a text, all of them or none;
* `Address.parse`: the one address of a text.
-/

namespace Mailroom

namespace Address

/-- Why a text is no address list. -/
inductive ListFault where
  | defect (defect : Defect)
  | pastEndOfText
  | pastEndOfParts
  | lineBreakInPart
  /-- Code points that have no octets, at places counted from zero. -/
  | unencodable (first : CodePoint) (start stop : Nat)
deriving DecidableEq

/-- A surrogate as it is named in messages. -/
def surrogateName (c : CodePoint) : Text := "\\u" ++ Text.hexDigits 4 c.val

/-- The wording of the reason. -/
def ListFault.message : ListFault → Text
  | defect d => d.message
  | pastEndOfText => "string index out of range"
  | pastEndOfParts => "list index out of range"
  | lineBreakInPart => "invalid arguments; address parts cannot contain CR or LF"
  | unencodable first start stop =>
    if stop = start + 1 then
      "'utf-8' codec can't encode character '" ++ surrogateName first ++ "' in position "
        ++ Text.ofNat start ++ ": surrogates not allowed"
    else
      "'utf-8' codec can't encode characters in position " ++ Text.ofNat start ++ "-"
        ++ Text.ofNat (stop - 1) ++ ": surrogates not allowed"

/-- An error of reading addresses. -/
inductive Fault where
  | noAddress
  | invalidList (value : Text) (reason : ListFault)
  | missingPart (value : Text)
  | notSingle (count : Nat) (value : Text)
deriving DecidableEq

/-- The wording of an error. -/
def Fault.message : Fault → Text
  | noAddress => "mail: no address"
  | invalidList value reason =>
    "mail: invalid address list " ++ value.quoted ++ ": " ++ reason.message
  | missingPart value => "mail: missing @ or domain in address " ++ value.quoted
  | notSingle count value =>
    "mail: expected single address, got " ++ Text.ofNat count ++ " in " ++ value.quoted

/-- A failure of reading addresses: an error, or a form at which reading breaks down. -/
inductive Failure where
  | fault (fault : Fault)
  | breakdown (cause : Breakdown)
deriving DecidableEq

namespace Parts

/-- A line break in one of the parts. -/
def hasLineBreak (p : Parts) : Bool :=
  (p.name ++ p.localPart ++ p.domain).any fun c => c.val == 0x0D || c.val == 0x0A

/-- The local part as it is written before the domain. -/
def writtenLocal (p : Parts) : Text :=
  if p.localPart.any Lexeme.endsDottedAtom then p.localPart.inQuotes else p.localPart

/-- `local@domain`, as far as there is either. -/
def spec (p : Parts) : Text :=
  if p.domain.isEmpty then (if p.writtenLocal.isEmpty then "<>" else p.writtenLocal)
  else p.writtenLocal ++ "@" ++ p.domain

/-- The address with its name. -/
def address (p : Parts) : Address := ⟨p.spec, p.name⟩

/-- A name as it stands in a list, between quotation marks if need be. -/
def writtenName (name : Text) : Text :=
  if name.any Lexeme.isSpecial then name.inQuotes else name

/-- The address and its name in plain letters. -/
def plain (p : Parts) : Text :=
  let name := writtenName p.name
  if name.isEmpty then p.spec
  else
    let spec : Text := if p.spec = Text.ofString "<>" then [] else p.spec
    name ++ " <" ++ spec ++ ">"

end Parts

/-- What is taken from one entry: its members, under a name if it is a group. -/
structure Block where
  name : Option Text
  members : List Parts
deriving DecidableEq

/-- The entry in plain letters. -/
def Block.plain (b : Block) : Text :=
  match b.name with
  | none => Text.join ", " (b.members.map Parts.plain)
  | some name =>
    let members := Text.join ", " (b.members.map Parts.plain)
    let spaced : Text := if members.isEmpty then [] else " " ++ members
    Parts.writtenName name ++ ":" ++ spaced ++ ";"

/-- The failure that stopped reading, for a text. No mismatch ever gets out of a list. -/
def failureOf (value : Text) : Halt → Failure
  | .breakdown cause => .breakdown cause
  | .pastEndOfText => .fault (.invalidList value .pastEndOfText)
  | .pastEndOfParts => .fault (.invalidList value .pastEndOfParts)
  | .mismatch => .fault (.invalidList value (.defect .invalidEntry))

/-- The parts of a mailbox, free of line breaks. -/
def mailboxParts (value : Text) (m : Mailbox) : Except Failure Parts := do
  let parts ← m.parts.mapError (failureOf value)
  if parts.hasLineBreak then .error (.fault (.invalidList value .lineBreakInPart)) else .ok parts

/-- The parts of the members of a group; a malformed member has none. -/
def memberParts (value : Text) : List Member → Except Failure (List Parts)
  | [] => .ok []
  | .filler _ :: items => memberParts value items
  | .invalid :: items => do
    let rest ← memberParts value items
    return ⟨[], [], []⟩ :: rest
  | .mailbox m :: items => do
    let parts ← mailboxParts value m
    let rest ← memberParts value items
    return parts :: rest

/-- What is taken from the entries, in order. -/
def blocks (value : Text) : List Entry → Except Failure (List Block)
  | [] => .ok []
  | .filler _ :: entries => blocks value entries
  | .invalid :: entries => do
    let rest ← blocks value entries
    return ⟨none, [⟨[], [], []⟩]⟩ :: rest
  | .mailbox m :: entries => do
    let parts ← mailboxParts value m
    let rest ← blocks value entries
    return ⟨none, [parts]⟩ :: rest
  | .group g excess :: entries => do
    let name ← g.name.name.mapError (failureOf value)
    if excess then .error (.breakdown .textAfterGroup)
    else do
      let members ← memberParts value g.members.items
      let rest ← blocks value entries
      return ⟨some name, members⟩ :: rest

/-- The first run of surrogates with one among them that holds no octet: its first such
code point and the places from there to the end of the run. -/
def firstUnencodable? (start : Nat) : Text → Option (CodePoint × Nat × Nat)
  | [] => none
  | c :: t =>
    if c.isSurrogate && c.octet?.isNone then
      some (c, start, start + 1 + (t.takeWhile CodePoint.isSurrogate).length)
    else firstUnencodable? (start + 1) t

end Address

/-- The addresses of a text, in order. One malformed entry spoils the whole list, and a
blank text is no list. -/
def AddressList.parse (value : Text) : Except Address.Failure AddressList :=
  if value.isBlank then .error (.fault .noAddress)
  else do
    let listing ← (Address.Listing.read value).mapError (Address.failureOf value)
    let blocks ← Address.blocks value listing.entries
    match Address.firstUnencodable? 0 (Text.join ", " (blocks.map (·.plain))) with
    | some (c, start, stop) =>
      .error (.fault (.invalidList value (.unencodable c start stop)))
    | none => match listing.defects.head? with
      | some defect => .error (.fault (.invalidList value (.defect defect)))
      | none =>
        let parts := blocks.flatMap (·.members)
        if parts.any fun p => p.localPart.isEmpty || p.domain.isEmpty then
          .error (.fault (.missingPart value))
        else .ok (parts.map (·.address))

/-- The one address of a text. -/
def Address.parse (value : Text) : Except Address.Failure Address := do
  match ← AddressList.parse value with
  | [address] => .ok address
  | addresses => .error (.fault (.notSingle addresses.length value))

end Mailroom
