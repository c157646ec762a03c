import Mailroom.Yaml.Token.Block
import Mailroom.Yaml.Token.Plain
import Mailroom.Yaml.Token.Property
import Mailroom.Yaml.Token.Quoted

/-!
# Cutting a YAML text into tokens

Whether something is the key of a mapping is known only at the colon behind it. So each place
where a key may begin is kept until a colon comes, or until there can be none any more: a key
is at most 1024 code points long and on one line. Where nothing but a key can stand, a missing
colon is a mistake.

* `Yaml.Lexing`: the place in the text, the tokens found, the columns of the open blocks, and
  the places where a key may have begun;
* `Yaml.tokens`: the tokens of a text.
-/

namespace Mailroom.Yaml

/-- A place where a key may have begun: the number of tokens before it, whether nothing else
can stand there, and where it is. -/
structure Candidate where
  before : Nat
  isRequired : Bool
  index : Nat
  line : Nat
  column : Nat
deriving DecidableEq

/-- The state of cutting a text into tokens. -/
structure Lexing where
  cursor : Cursor
  tokens : Array Token
  /-- How many brackets are open. -/
  depth : Nat
  /-- The columns of the open blocks, the innermost first. -/
  indents : List Nat
  /-- A key may begin here. -/
  keyAllowed : Bool
  /-- The candidates, each with the number of open brackets. -/
  candidates : List (Nat × Candidate)

namespace Lexing

/-- The state at the beginning of a text. -/
def start (t : Text) : Lexing := ⟨Cursor.start t, #[], 0, [], true, []⟩

/-- No bracket is open. -/
def inBlock (s : Lexing) : Bool := s.depth == 0

/-- A block begins at a column: it is behind that of the innermost block. -/
def beginsBlock (s : Lexing) (column : Nat) : Bool :=
  match s.indents with
  | [] => true
  | indent :: _ => indent < column

/-- The least column of the further lines of a scalar. -/
def leastColumn (s : Lexing) : Nat :=
  match s.indents with
  | [] => 0
  | indent :: _ => indent + 1

end Lexing

/-- A step of cutting a text into tokens. What was found before a mistake stays found. -/
abbrev Lex (α : Type) := ExceptT Fault (StateM Lexing) α

namespace Lex

/-- Another place. -/
def moveTo (c : Cursor) : Lex Unit := modify fun s => { s with cursor := c }

/-- Behind some code points. -/
def forward (n : Nat) : Lex Unit := modify fun s => { s with cursor := s.cursor.forward n }

/-- Another token at the end. -/
def emit (token : Token) : Lex Unit := modify fun s => { s with tokens := s.tokens.push token }

/-- Whether a key may begin here. -/
def allowKey (allowed : Bool) : Lex Unit := modify fun s => { s with keyAllowed := allowed }

/-- The outcome of something that needs no state. -/
def ofExcept {α : Type} : Except Fault α → Lex α
  | .ok a => pure a
  | .error fault => throw fault

/-- The candidates that meet a condition are given up, which must not be done to a required
one. -/
def giveUp (p : Nat × Candidate → Bool) : Lex Unit := do
  let s ← get
  if s.candidates.any fun entry => p entry && entry.2.isRequired then throw .malformed
  else set { s with candidates := s.candidates.filter fun entry => !p entry }

/-- How long a key can be. -/
def keyLimit : Nat := 1024

/-- Candidates on other lines or too far away are given up. -/
def giveUpStale : Lex Unit := do
  let s ← get
  giveUp fun (_, candidate) =>
    candidate.line != s.cursor.line || keyLimit < s.cursor.index - candidate.index

/-- The candidate inside of the innermost brackets is given up. -/
def giveUpInnermost : Lex Unit := do
  let s ← get
  giveUp fun (depth, _) => depth == s.depth

/-- A key may begin with the next token. -/
def propose : Lex Unit := do
  let s ← get
  if s.keyAllowed then
    giveUpInnermost
    let c := s.cursor
    let candidate : Candidate :=
      ⟨s.tokens.size, s.inBlock && s.indents.head? == some c.column, c.index, c.line, c.column⟩
    modify fun s => { s with candidates := (s.depth, candidate) :: s.candidates }

/-- The blocks that are closed where a column is reached. -/
def closeWhere (isClosed : Nat → Bool) : Lex Unit :=
  modify fun s =>
    if s.inBlock then
      let closed := s.indents.takeWhile isClosed
      { s with
        indents := s.indents.drop closed.length
        tokens := s.tokens ++ closed.toArray.map fun _ => Token.blockEnd }
    else s

/-- All blocks are closed, and nothing before can be a key any more. -/
def closeAll : Lex Unit := do
  closeWhere fun _ => true
  giveUpInnermost
  allowKey false

/-- A block begins at this column, unless one is open here. -/
def openBlock (token : Token) : Lex Unit := do
  let s ← get
  let column := s.cursor.column
  if s.beginsBlock column then
    set { s with indents := column :: s.indents }
    emit token

/-- What a block begins with, where one can begin. -/
def openBlockHere (token : Token) : Lex Unit := do
  let s ← get
  if s.inBlock then
    if s.keyAllowed then openBlock token else throw .malformed

/-- A token of some code points. -/
def punctuation (token : Token) (width : Nat) : Lex Unit := do
  forward width
  emit token

/-- A directive. -/
def directive : Lex Unit := do
  closeAll
  let (found, c) ← ofExcept (Property.takeDirective (← get).cursor)
  moveTo c
  emit (.directive found)

/-- A mark that separates documents. -/
def separator (token : Token) : Lex Unit := do
  closeAll
  punctuation token 3

/-- An opening bracket. -/
def openBracket (token : Token) : Lex Unit := do
  propose
  modify fun s => { s with depth := s.depth + 1 }
  allowKey true
  punctuation token 1

/-- A closing bracket. -/
def closeBracket (token : Token) : Lex Unit := do
  giveUpInnermost
  modify fun s => { s with depth := s.depth - 1 }
  allowKey false
  punctuation token 1

/-- A comma. -/
def comma : Lex Unit := do
  allowKey true
  giveUpInnermost
  punctuation .comma 1

/-- The mark of an item. -/
def item : Lex Unit := do
  openBlockHere .blockList
  allowKey true
  giveUpInnermost
  punctuation .item 1

/-- The mark of a key. -/
def key : Lex Unit := do
  openBlockHere .blockMapping
  allowKey (← get).inBlock
  giveUpInnermost
  punctuation .key 1

/-- The token of a key put in front of a candidate, with that of a block if it begins one. -/
def insertKey (candidate : Candidate) : Lex Unit := do
  let s ← get
  let tokens := s.tokens.insertIdxIfInBounds candidate.before .key
  if s.inBlock && s.beginsBlock candidate.column then
    set { s with
      indents := candidate.column :: s.indents
      tokens := tokens.insertIdxIfInBounds candidate.before .blockMapping }
  else set { s with tokens := tokens }

/-- The mark of a value. -/
def value : Lex Unit := do
  let s ← get
  match s.candidates.find? fun (depth, _) => depth == s.depth with
  | some (_, candidate) =>
    set { s with candidates := s.candidates.filter fun (depth, _) => depth != s.depth }
    insertKey candidate
    allowKey false
  | none =>
    openBlockHere .blockMapping
    allowKey s.inBlock
    giveUpInnermost
  punctuation .value 1

/-- A token that may be the beginning of a key. -/
def property (take : Cursor → Except Fault (Token × Cursor)) : Lex Unit := do
  propose
  allowKey false
  let (token, c) ← ofExcept (take (← get).cursor)
  moveTo c
  emit token

/-- A scalar made of whole lines. -/
def block (isFolded : Bool) : Lex Unit := do
  allowKey true
  giveUpInnermost
  let s ← get
  let (text, c) ← ofExcept (Block.scan isFolded s.leastColumn s.cursor)
  moveTo c
  emit (.scalar text false)

/-- A scalar without quotation marks. -/
def plain : Lex Unit := do
  propose
  let s ← get
  let (text, broken, c) := Plain.scan (!s.inBlock) s.leastColumn s.cursor
  moveTo c
  allowKey broken
  emit (.scalar text true)

/-- Behind spaces, comments and line breaks. Behind a line break a key may begin. -/
def skip : Nat → Lex Unit
  | 0 => return ()
  | fuel + 1 => do
    let s ← get
    let c := s.cursor.skipComment
    if c.sees isBreak then
      moveTo c.lineBreak.2
      if s.inBlock then allowKey true
      skip fuel
    else moveTo c

/-- A code point that begins no scalar without quotation marks. -/
def isIndicator (c : CodePoint) : Bool :=
  ("-?:,[]\x7b\x7d#&*!|>'\"%@\x60" : Text).contains c

/-- A scalar without quotation marks can begin with a code point. -/
def beginsPlain (inBlock : Bool) (c : CodePoint) (next : Option CodePoint) : Bool :=
  !(isSpaceOrTab c || isBreak c || isIndicator c)
    || (!endsMark next && (c.val == 0x2D || (inBlock && (c.val == 0x3F || c.val == 0x3A))))

/-- The token that begins with a code point. -/
def token (c : CodePoint) (rest : Text) : Lex Unit := do
  let s ← get
  let next := rest.head?
  let atMargin := s.cursor.column == 0
  match Char.ofNat c.val with
  | '[' => openBracket .flowList
  | '\x7b' => openBracket .flowMapping
  | ']' => closeBracket .flowListEnd
  | '\x7d' => closeBracket .flowMappingEnd
  | ',' => comma
  | '*' => property fun c => (Property.takeName c).map fun (name, c) => (.alias name, c)
  | '&' => property fun c => (Property.takeName c).map fun (name, c) => (.anchor name, c)
  | '!' => property fun c => (Property.takeTag c).map fun (tag, c) => (.tag tag, c)
  | '\'' => property fun c => (Quoted.scan false c).map fun (text, c) => (.scalar text false, c)
  | '"' => property fun c => (Quoted.scan true c).map fun (text, c) => (.scalar text false, c)
  | o =>
    if o = '%' ∧ atMargin then directive
    else if atMargin ∧ beginsWithMark "---" (c :: rest) then separator .documentStart
    else if atMargin ∧ beginsWithMark "..." (c :: rest) then separator .documentEnd
    else if o = '-' ∧ endsMark next then item
    else if o = '?' ∧ (!s.inBlock ∨ endsMark next) then key
    else if o = ':' ∧ (!s.inBlock ∨ endsMark next) then value
    else if o = '|' ∧ s.inBlock then block false
    else if o = '>' ∧ s.inBlock then block true
    else if beginsPlain s.inBlock c next then plain
    else throw .malformed

/-- All tokens from a place on. -/
def all : Nat → Lex Unit
  | 0 => return ()
  | fuel + 1 => do
    skip ((← get).cursor.rest.length + 1)
    giveUpStale
    let column := (← get).cursor.column
    closeWhere fun indent => column < indent
    match (← get).cursor.rest with
    | [] =>
      closeAll
      emit .textEnd
    | c :: rest =>
      token c rest
      all fuel

end Lex

/-- The tokens of a text; a byte order mark at its beginning is passed over. -/
def tokens (t : Text) : List Token :=
  let begin := Cursor.start t
  let begin := if begin.at? (CodePoint.ofNat 0xFEFF) then begin.step else begin
  let lexing := { Lexing.start t with cursor := begin }
  let (outcome, final) := (ExceptT.run (Lex.all (t.length + 1))).run lexing
  match outcome with
  | .ok () => final.tokens.toList
  | .error fault => (final.tokens.push (.illegible fault)).toList

end Mailroom.Yaml
