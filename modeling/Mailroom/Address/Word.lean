import Mailroom.Address.EncodedWord

/-!
# Words and phrases

* `QuotedString`: a text between quotation marks, as pieces; `QuotedString.content` is
  what it stands for;
* `Word`: an atom, an encoded word or a quoted string, with filler on either side;
* `Phrase`: words, dots and fillers, as in a display name; `Phrase.name` is the name.
-/

namespace Mailroom.Address

/-- A piece of a quoted string. -/
inductive QuotedPiece where
  | text (content : Text)
  | blank (content : Text)
  | encoded (word : EncodedWord)
deriving DecidableEq

/-- A text between quotation marks. -/
structure QuotedString where
  pieces : List QuotedPiece
  unclosed : Bool
deriving DecidableEq

namespace QuotedString

/-- The text of some pieces; a blank between two encoded words vanishes. -/
def contentOf : List QuotedPiece → Text
  | [] => []
  | .encoded w :: .blank _ :: .encoded v :: rest => w.text ++ contentOf (.encoded v :: rest)
  | .encoded w :: rest => w.text ++ contentOf rest
  | .text t :: rest => t ++ contentOf rest
  | .blank t :: rest => t ++ contentOf rest

/-- The text that the quoted string stands for. -/
def content (q : QuotedString) : Text := contentOf q.pieces

/-- The quoted string as it would be written. -/
def written (q : QuotedString) : Text := q.content.inQuotes

/-- The piece is an encoded word. -/
def isEncoded : QuotedPiece → Bool
  | .encoded _ => true
  | _ => false

/-- The defects of a piece. -/
def pieceDefects : QuotedPiece → List Defect
  | .encoded w => w.defects
  | _ => []

/-- The defects of a quoted string. -/
def defects (q : QuotedString) : List Defect :=
  (if q.pieces.any isEncoded then [.encodedWordInQuotes] else [])
    ++ (if q.unclosed then [.openQuotes] else []) ++ q.pieces.flatMap pieceDefects

/-- The text up to a space, a tab, a quotation mark or the end, with what follows it. A
backslash takes the meaning of a mark or backslash after it away and is itself dropped. -/
def scanText (escaped : Bool) : Text → Text × Text
  | [] => ([], [])
  | c :: t =>
    if Lexeme.isSpace c then ([], c :: t)
    else if !escaped && c.val == 0x5C then scanText true t
    else if !escaped && c.val == 0x22 then ([], c :: t)
    else
      let (text, rest) := scanText false t
      (c :: text, rest)

/-- One piece at the beginning of a text that is neither empty nor at the closing mark. -/
def readPiece (t : Text) : QuotedPiece × Text :=
  if Lexeme.headIs Lexeme.isSpace t then
    (.blank (t.takeWhile CodePoint.isBlank), t.dropWhile CodePoint.isBlank)
  else match EncodedWord.read? t with
    | some (word, rest) => (.encoded word, rest)
    | none => let (text, rest) := scanText false t; (.text text, rest)

/-- The pieces up to the closing mark or the end, at most as many as the fuel allows. -/
def readPieces : Nat → Text → List QuotedPiece × Text
  | 0, t => ([], t)
  | fuel + 1, t =>
    if t.isEmpty || Lexeme.headIs (·.val == 0x22) t then ([], t)
    else
      let (piece, rest) := readPiece t
      let (pieces, rest) := readPieces fuel rest
      (piece :: pieces, rest)

/-- The quoted string whose opening mark has been read, with what follows it. Two marks in
a row hold one empty piece. -/
def readOpened (t : Text) : QuotedString × Text :=
  let first : List QuotedPiece := if Lexeme.headIs (·.val == 0x22) t then [.text []] else []
  match readPieces t.length t with
  | (pieces, _ :: rest) => (⟨first ++ pieces, false⟩, rest)
  | (pieces, []) => (⟨first ++ pieces, true⟩, [])

end QuotedString

/-- The middle of a word. -/
inductive WordCore where
  | atom (text : Text)
  | encoded (word : EncodedWord)
  | quoted (string : QuotedString)
deriving DecidableEq

/-- What the middle of a word stands for. -/
def WordCore.value : WordCore → Text
  | atom text => text
  | encoded word => word.value
  | quoted string => string.content

/-- The middle of a word as it would be written. -/
def WordCore.written : WordCore → Text
  | atom text => text
  | encoded word => word.text
  | quoted string => string.written

/-- The defects of the middle of a word. -/
def WordCore.defects : WordCore → List Defect
  | atom _ => []
  | encoded word => word.defects
  | quoted string => string.defects

/-- A word with the fillers around it. -/
structure Word where
  before : Option Filler
  core : WordCore
  after : Option Filler
deriving DecidableEq

/-- A filler, if there is one, stands for one space. -/
def fillerValue (f : Option Filler) : Text := if f.isSome then " " else []

/-- A filler, if there is one, as it would be written. -/
def fillerWritten (f : Option Filler) : Text := (f.map (·.written)).getD []

/-- The defects of a filler, if there is one. -/
def fillerDefects (f : Option Filler) : List Defect :=
  commentDefects ((f.map (·.unclosed)).getD false)

namespace Word

/-- What a word stands for. -/
def value (w : Word) : Text := fillerValue w.before ++ w.core.value ++ fillerValue w.after

/-- The word as it would be written. -/
def written (w : Word) : Text := fillerWritten w.before ++ w.core.written ++ fillerWritten w.after

/-- The defects of a word, from left to right. -/
def defects (w : Word) : List Defect :=
  fillerDefects w.before ++ w.core.defects ++ fillerDefects w.after

/-- The middle of a word that is an atom or an encoded word. -/
def readAtomCore? (t : Text) : Option (WordCore × Text) :=
  if Lexeme.headIs Lexeme.endsAtom t then none
  else match EncodedWord.read? t with
    | some (word, rest) => some (.encoded word, rest)
    | none => (Lexeme.atom? t).map fun (text, rest) => (.atom text, rest)

/-- An atom or an encoded word with its fillers, with what follows it. -/
def readAtom? (t : Text) : Option (Word × Text) :=
  let (before, t) := Filler.skip t
  (readAtomCore? t).map fun (core, t) =>
    let (after, t) := Filler.skip t
    (⟨before, core, after⟩, t)

/-- A word with its fillers, with what follows it. -/
def read? (t : Text) : Option (Word × Text) :=
  let (before, t) := Filler.skip t
  let core? := match t with
    | c :: rest =>
      if c.val == 0x22 then
        let (string, rest) := QuotedString.readOpened rest
        some (WordCore.quoted string, rest)
      else if Lexeme.isSpecial c then none
      else readAtomCore? t
    | [] => none
  core?.map fun (core, t) =>
    let (after, t) := Filler.skip t
    (⟨before, core, after⟩, t)

end Word

/-- An element of a phrase. -/
inductive PhraseItem where
  | word (word : Word)
  | dot
  | filler (filler : Filler)
deriving DecidableEq

/-- Words, dots and fillers in a row; `headless` if they do not begin with a word. -/
structure Phrase where
  items : List PhraseItem
  headless : Bool
deriving DecidableEq

namespace Phrase

/-- What an element of a phrase stands for. -/
def itemValue : PhraseItem → Text
  | .word w => w.value
  | .dot => "."
  | .filler _ => " "

/-- The defects of an element of a phrase. -/
def itemDefects : PhraseItem → List Defect
  | .word w => w.defects
  | .dot => []
  | .filler f => commentDefects f.unclosed

/-- The defects of a phrase, its own first. -/
def defects (p : Phrase) : List Defect :=
  (if p.headless then [.phraseWithoutWord] else []) ++ p.items.flatMap itemDefects

/-- The elements up to the end of the phrase, at most as many as the fuel allows. -/
def readItems : Nat → Text → List PhraseItem × Text
  | 0, t => ([], t)
  | fuel + 1, t => match t with
    | [] => ([], [])
    | c :: rest =>
      if Lexeme.endsPhrase c then ([], t)
      else
        let (item, rest) : PhraseItem × Text :=
          if c.val == 0x2E then (.dot, rest)
          else match Word.read? t with
            | some (word, rest) => (.word word, rest)
            | none => let (filler, rest) := Filler.scan .outside t; (.filler filler, rest)
        let (items, rest) := readItems fuel rest
        (item :: items, rest)

/-- The phrase at the beginning of a text, with what follows it. -/
def read (t : Text) : Phrase × Text :=
  match Word.read? t with
  | some (word, rest) =>
    let (items, rest) := readItems rest.length rest
    (⟨.word word :: items, false⟩, rest)
  | none =>
    let (items, rest) := readItems t.length t
    (⟨items, true⟩, rest)

/-- The elements without filler at the beginning. A dot there breaks the reading down. -/
def trimStart : List PhraseItem → Except Halt (List PhraseItem)
  | .filler _ :: items => .ok items
  | .word w :: items => .ok (.word { w with before := none } :: items)
  | .dot :: _ => .error (.breakdown .dotAtNameEnd)
  | [] => .error .pastEndOfParts

/-- The elements, given in reverse, without filler at the end. -/
def trimEnd : List PhraseItem → Except Halt (List PhraseItem)
  | .filler _ :: items => .ok items
  | .word w :: items => .ok (.word { w with after := none } :: items)
  | .dot :: _ => .error (.breakdown .dotAtNameEnd)
  | [] => .error .pastEndOfParts

/-- The display name: what the elements stand for, without the fillers at either end. -/
def name (p : Phrase) : Except Halt Text :=
  if p.items.isEmpty then .ok []
  else do
    let items ← trimStart p.items
    let items ← trimEnd items.reverse
    return items.reverse.flatMap itemValue

end Phrase

end Mailroom.Address
