import Mailroom.Address.Word

/-!
# Local parts, domains and routes

`local@domain` in all the forms that were ever allowed.

* `LocalPart`: one word, or words with dots between them; `LocalPart.text` is its text;
* `Domain`: dotted atoms or a literal in brackets; `Domain.text` is its text;
* `AddrSpec`: the two together;
* `Route`: the domains that an old form lists before the address.
-/

namespace Mailroom.Address

/-- An element of a local part in the old form. -/
inductive LocalItem where
  | word (word : Word)
  | dot
  | filler (filler : Filler)
  | backslash
deriving DecidableEq

/-- A local part: one dotted word, or the old form. -/
inductive LocalPart where
  | plain (word : Word)
  | old (items : List LocalItem)
deriving DecidableEq

namespace LocalPart

/-- The elements of the old form up to its end, at most as many as the fuel allows. -/
def readItems : Nat → Text → List LocalItem × Text
  | 0, t => ([], t)
  | fuel + 1, t => match t with
    | [] => ([], [])
    | c :: rest =>
      if c.val != 0x5C && Lexeme.endsPhrase c then ([], t)
      else
        let (item, rest) : LocalItem × Text :=
          if c.val == 0x2E then (.dot, rest)
          else if c.val == 0x5C then (.backslash, rest)
          else match Word.read? t with
            | some (word, rest) => (.word word, rest)
            | none => let (filler, rest) := Filler.scan .outside t; (.filler filler, rest)
        let (items, rest) := readItems fuel rest
        (item :: items, rest)

/-- Every word and filler after the first element follows a dot, dots stand between
words, and no backslash stands alone. -/
def alternates (first dotBefore dotPending : Bool) : List LocalItem → Bool
  | [] => true
  | .dot :: items => !dotPending && alternates false true true items
  | .backslash :: _ => false
  | .word _ :: items => (first || dotBefore) && alternates false false false items
  | .filler _ :: items => (first || dotBefore) && alternates false false dotPending items

/-- Whether the first element that is no filler is a dot. Nothing but one filler, or
nothing at all, cannot be looked at. -/
def startsWithDot : List LocalItem → Except Halt Bool
  | .dot :: _ => .ok true
  | .filler _ :: .dot :: _ => .ok true
  | .filler _ :: _ :: _ => .ok false
  | .filler _ :: [] => .error .pastEndOfParts
  | [] => .error .pastEndOfParts
  | _ => .ok false

/-- The old form is proper: dots stand between words and nowhere else. -/
def isProper : LocalPart → Bool
  | plain _ => true
  | old items => alternates true false false items
      && (startsWithDot items matches .ok false) && (startsWithDot items.reverse matches .ok false)

/-- The dotted word at the beginning of a text. -/
def readDotted? (t : Text) : Option (Word × Text) :=
  let core? := match EncodedWord.read? t with
    | some (word, rest) => some (WordCore.encoded word, rest)
    | none => (Lexeme.dottedAtom? t).map fun (text, rest) => (.atom text, rest)
  core?.map fun (core, rest) =>
    let (after, rest) := Filler.skip rest
    (⟨none, core, after⟩, rest)

/-- The text goes on with something that only the old form allows. -/
def goesOn (t : Text) : Bool := Lexeme.headIs (fun c => c.val == 0x5C || !Lexeme.endsPhrase c) t

/-- The local part at the beginning of a text, with what follows it. What has been read as a
word is written out and read again when it turns out to be the beginning of the old form. -/
def read (t : Text) : Except Halt (LocalPart × Text) :=
  if t.isEmpty then .error .pastEndOfText
  else
    let (before, t) := Filler.skip t
    let again (written rest : Text) : Except Halt (LocalPart × Text) :=
      let whole := fillerWritten before ++ written ++ rest
      let (items, rest) := readItems whole.length whole
      do
        let _ ← startsWithDot items
        return (.old items, rest)
    if t.isEmpty then .error .mismatch
    else match (readDotted? t).or (Word.read? t) with
      | some (word, rest) =>
        if goesOn rest then again word.written rest
        else .ok (.plain { word with before := before }, rest)
      | none =>
        if Lexeme.headIs (fun c => c.val != 0x5C && Lexeme.endsPhrase c) t then .error .mismatch
        else again [] t

/-- The text of the elements of the old form: a filler counts only inside it, away from dots. -/
def textOf (dotBefore : Bool) : List LocalItem → Text
  | [] => []
  | .dot :: items => CodePoint.ofChar '.' :: textOf true items
  | .backslash :: items => CodePoint.ofChar '\\' :: textOf false items
  | .filler _ :: items => textOf dotBefore items
  | .word w :: items =>
    let dotAfter := match items.find? fun i => !(i matches .filler _) with
      | none | some .dot => true
      | some _ => false
    (if dotBefore then [] else fillerValue w.before) ++ w.core.value
      ++ (if dotAfter then [] else fillerValue w.after) ++ textOf false items

/-- The text of a local part. An empty encoded word, or a quoted string cut off right
after its mark, cannot be looked at. -/
def text : LocalPart → Except Halt Text
  | plain w => match w.core with
    | .atom text => .ok text
    | .encoded word => if word.text.isEmpty then .error .pastEndOfParts else .ok word.value
    | .quoted string =>
      if string.pieces.isEmpty then .error .pastEndOfParts else .ok string.content
  | old items => .ok (textOf true items)

/-- The defects of an element of the old form. -/
def itemDefects : LocalItem → List Defect
  | .word w => w.defects
  | .filler f => commentDefects f.unclosed
  | .dot | .backslash => []

/-- The defects of a local part, its own first. -/
def defects (l : LocalPart) : List Defect :=
  (if l.isProper then [] else [.improperLocalPart]) ++
    match l with
    | plain w => w.defects
    | old items => items.flatMap itemDefects

end LocalPart

/-- An element of a domain. -/
inductive DomainItem where
  | filler (filler : Filler)
  | text (text : Text)
  | encoded (word : EncodedWord)
deriving DecidableEq

/-- A domain. -/
structure Domain where
  items : List DomainItem
deriving DecidableEq

namespace Domain

/-- What an element of a domain stands for. -/
def itemValue : DomainItem → Text
  | .filler _ => " "
  | .text t => t
  | .encoded w => w.value

/-- The defects of an element of a domain. -/
def itemDefects : DomainItem → List Defect
  | .filler f => commentDefects f.unclosed
  | .text _ => []
  | .encoded w => w.defects

/-- The text of a domain: what its elements stand for, without any blanks. -/
def text (d : Domain) : Text := (d.items.flatMap itemValue).filter fun c => !c.isBlank

/-- The defects of a domain, from left to right. -/
def defects (d : Domain) : List Defect := d.items.flatMap itemDefects

/-- A filler, if there is one, as an element. -/
def ofFiller (f : Option Filler) : List DomainItem := (f.map DomainItem.filler).toList

/-- The elements of a word in a domain. -/
def ofWord (w : Word) : List DomainItem :=
  ofFiller w.before ++
    (match w.core with
    | .atom text => [.text text]
    | .encoded word => [.encoded word]
    | .quoted string => [.text string.content]) ++
  ofFiller w.after

/-- The text of a literal up to a blank, a bracket or the end, with what follows it. -/
def scanLiteral (escaped : Bool) : Text → Text × Text
  | [] => ([], [])
  | c :: t =>
    if Lexeme.isSpace c then ([], c :: t)
    else if !escaped && c.val == 0x5C then scanLiteral true t
    else if !escaped && (c.val == 0x5B || c.val == 0x5D) then ([], c :: t)
    else
      let (text, rest) := scanLiteral false t
      (c :: text, rest)

/-- The blank at the beginning of a text as an element, with what follows it. -/
def skipBlank (t : Text) : List DomainItem × Text :=
  if Lexeme.headIs Lexeme.isSpace t then
    ([.text (t.takeWhile CodePoint.isBlank)], t.dropWhile CodePoint.isBlank)
  else ([], t)

/-- The literal whose opening bracket has been read, with what follows it. -/
def readLiteral (before : Option Filler) (t : Text) : Except Halt (Domain × Text) :=
  if t.isEmpty then .error (.breakdown .openLiteral)
  else
    let (blank, t) := skipBlank t
    if t.isEmpty then .error (.breakdown .blankOpenLiteral)
    else
      let (text, t) := scanLiteral false t
      let (blank', t) := skipBlank t
      match t with
      | [] => .error (.breakdown .openLiteral)
      | c :: t =>
        if c.val == 0x5D then
          let (after, t) := Filler.skip t
          .ok (⟨ofFiller before ++ [.text "["] ++ blank ++ [.text text] ++ blank' ++ [.text "]"]
            ++ ofFiller after⟩, t)
        else .error .mismatch

/-- The further atoms after dots, at most as many as the fuel allows. -/
def readMore : Nat → Text → Except Halt (List DomainItem × Text)
  | 0, t => .ok ([], t)
  | fuel + 1, t => match t with
    | c :: rest =>
      if c.val == 0x2E then
        match Word.readAtom? rest with
        | some (word, rest) => do
          let (items, rest) ← readMore fuel rest
          return (.text "." :: ofWord word ++ items, rest)
        | none => .error .mismatch
      else .ok ([], t)
    | [] => .ok ([], [])

/-- The domain at the beginning of a text, with what follows it. -/
def read (t : Text) : Except Halt (Domain × Text) :=
  if t.isEmpty then .error .pastEndOfText
  else
    let (before, t) := Filler.skip t
    match t with
    | [] => .error .mismatch
    | c :: rest =>
      if c.val == 0x5B then readLiteral before rest
      else match (LocalPart.readDotted? t).or (Word.readAtom? t) with
        | none => .error .mismatch
        | some (word, rest) =>
          if Lexeme.headIs (·.val == 0x40) rest then .error .mismatch
          else do
            let (more, rest) ← readMore rest.length rest
            return (⟨ofFiller before ++ ofWord word ++ more⟩, rest)

end Domain

/-- A local part with its domain, if there is one. -/
structure AddrSpec where
  localPart : LocalPart
  domain : Option Domain
deriving DecidableEq

namespace AddrSpec

/-- The local part and domain at the beginning of a text, with what follows them. -/
def read (t : Text) : Except Halt (AddrSpec × Text) := do
  let (localPart, t) ← LocalPart.read t
  match t with
  | c :: rest =>
    if c.val == 0x40 then
      let (domain, rest) ← Domain.read rest
      return (⟨localPart, some domain⟩, rest)
    else return (⟨localPart, none⟩, t)
  | [] => return (⟨localPart, none⟩, [])

/-- The defects of a local part with its domain. -/
def defects (a : AddrSpec) : List Defect :=
  (if a.domain.isNone then [.missingDomain] else []) ++ a.localPart.defects
    ++ (a.domain.map Domain.defects).getD []

end AddrSpec

/-- The domains listed before an address. -/
structure Route where
  items : List DomainItem
deriving DecidableEq

namespace Route

/-- The defects of a route. -/
def defects (r : Route) : List Defect := r.items.flatMap Domain.itemDefects

/-- A domain of a route. A literal that runs to the end of the text makes it no route. -/
def readDomain (t : Text) : Except Halt (Domain × Text) :=
  match Domain.read t with
  | .error (.breakdown .openLiteral) => .error .mismatch
  | r => r

/-- Commas and fillers, at most as many as the fuel allows. -/
def readSeparators : Nat → Text → List DomainItem × Text
  | 0, t => ([], t)
  | fuel + 1, t => match Filler.take? t with
    | some (filler, rest) =>
      let (items, rest) := readSeparators fuel rest
      (.filler filler :: items, rest)
    | none =>
      if Lexeme.headIs (·.val == 0x2C) t then readSeparators fuel (t.drop 1) else ([], t)

/-- The further domains after commas, at most as many as the fuel allows. -/
def readMore : Nat → Text → Except Halt (List DomainItem × Text)
  | 0, t => .ok ([], t)
  | fuel + 1, t =>
    if Lexeme.headIs (·.val == 0x2C) t then
      match t.drop 1 with
      | [] => .ok ([], [])
      | rest =>
        let (filler, rest) := Filler.skip rest
        match rest with
        | [] => .error .pastEndOfText
        | c :: rest' => do
          let (domain, rest) ←
            if c.val == 0x40 then do
              let (domain, rest) ← readDomain rest'
              pure (domain.items, rest)
            else pure (([] : List DomainItem), rest)
          let (items, rest) ← readMore fuel rest
          return (Domain.ofFiller filler ++ domain ++ items, rest)
    else .ok ([], t)

/-- The route at the beginning of a text with its closing colon, with what follows it. -/
def read (t : Text) : Except Halt (Route × Text) :=
  let (start, t) := readSeparators t.length t
  match t with
  | c :: rest =>
    if c.val == 0x40 then do
      let (domain, rest) ← readDomain rest
      let (more, rest) ← readMore rest.length rest
      match rest with
      | d :: rest =>
        if d.val == 0x3A then return (⟨start ++ domain.items ++ more⟩, rest)
        else .error .mismatch
      | [] => .error .mismatch
    else .error .mismatch
  | [] => .error .mismatch

end Route

end Mailroom.Address
