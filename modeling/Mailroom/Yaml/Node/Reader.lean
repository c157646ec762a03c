import Mailroom.Yaml.Node
import Mailroom.Yaml.Token

/-!
# The document that tokens make up

* `Yaml.Reading`: the tokens to come, the nodes so far, their names, and what handles stand for;
* `Composition.ofTokens`: the one document of some tokens, if there is any.
-/

namespace Mailroom.Yaml

/-- The tokens to come, the nodes so far, their names, and what handles stand for. -/
structure Reading where
  rest : List Token
  graph : Graph
  anchors : List (Text × Nat)
  handles : List (Text × Text)

/-- A step of reading. -/
abbrev Read (α : Type) := StateT Reading (Except Fault) α

namespace Read

/-- The next token. -/
def peek : Read Token := do return ((← get).rest.head?).getD .textEnd

/-- The next token, taken. -/
def take : Read Token := do
  let token ← peek
  modify fun s => { s with rest := s.rest.drop 1 }
  return token

/-- Whether a given token comes next, which is then taken. -/
def accept (token : Token) : Read Bool := do
  if (← peek) = token then
    let _ ← take
    return true
  else return false

/-- Whether one of some tokens comes next. -/
def sees (choices : List Token) : Read Bool := do return choices.contains (← peek)

/-- The next token does not fit. -/
def refuse {α : Type} : Read α := do throw (← peek).fault

/-- A name, and the mark of a kind, of a node. -/
structure Properties where
  anchor : Option Text
  shorthand : Option Shorthand

/-- The name, if one comes next. -/
def takeAnchor : Read (Option Text) := do
  match ← peek with
  | .anchor name =>
    let _ ← take
    return some name
  | _ => return none

/-- The mark of a kind, if one comes next. -/
def takeShorthand : Read (Option Shorthand) := do
  match ← peek with
  | .tag shorthand =>
    let _ ← take
    return some shorthand
  | _ => return none

/-- Name and mark in either order. -/
def takeProperties : Read Properties := do
  match ← takeAnchor with
  | some name => return ⟨some name, ← takeShorthand⟩
  | none => match ← takeShorthand with
    | some shorthand => return ⟨← takeAnchor, some shorthand⟩
    | none => return ⟨none, none⟩

/-- The full name that a mark stands for. -/
def expand (shorthand : Shorthand) : Read Text := do
  match shorthand.handle with
  | none => return shorthand.suffix
  | some handle => match (← get).handles.find? fun (h, _) => h = handle with
    | some (_, leading) => return leading ++ shorthand.suffix
    | none => throw .malformed

/-- The full name in the properties of a node; an exclamation mark alone is none. -/
def takeName (p : Properties) : Read (Option Text) := do
  match p.shorthand with
  | none => return none
  | some shorthand => return some (← expand shorthand)

/-- The mark says that the kind depends on the text alone. -/
def isOpen (name : Option Text) : Bool := name = some [CodePoint.ofChar '!']

/-- The kind of a list or mapping. -/
def collectionKind (name : Option Text) (usual : Kind) : Kind :=
  match name with
  | none => usual
  | some n => if isOpen name then usual else Kind.ofName n

/-- The kind of a scalar. -/
def scalarKind (name : Option Text) (text : Text) (isPlain : Bool) : Kind :=
  match name with
  | none => if isPlain then Kind.ofPlain text else .text
  | some n => if isOpen name then Kind.ofPlain text else Kind.ofName n

/-- A name that no node has yet. -/
def checkName (anchor : Option Text) : Read Unit := do
  match anchor with
  | none => return ()
  | some name =>
    if (← get).anchors.any fun (a, _) => a = name then throw .malformed

/-- A new node, with its name if it has one. -/
def add (anchor : Option Text) (node : Node) : Read Nat := do
  let s ← get
  let number := s.graph.size
  let anchors := match anchor with
    | some name => (name, number) :: s.anchors
    | none => s.anchors
  set { s with graph := s.graph.push node, anchors := anchors }
  return number

/-- The new node of what is left out. -/
def addEmpty : Read Nat := add none .empty

/-- A node that is already there becomes another one. -/
def complete (number : Nat) (node : Node) : Read Unit :=
  modify fun s => { s with graph := s.graph.put number node }

/-- How deeply nodes may be nested. -/
def depthBound : Nat := 488

/-- A depth is refused beyond the bound. -/
def checkDepth (depth : Nat) : Read Unit :=
  if depthBound < depth then throw (.breakdown .nestedTooDeeply) else return ()

/-- The node of a name. -/
def resolve (name : Text) : Read Nat := do
  match (← get).anchors.find? fun (a, _) => a = name with
  | some (_, node) => return node
  | none => throw .malformed

/-- Where a node stands: in brackets, in a block, or in an entry of a block, where the items
of a list need not be indented. -/
inductive Context where
  | flow
  | block
  | entry
deriving DecidableEq

mutual

/-- A node at a depth. A collection has its name already while it is read. -/
def node (context : Context) (depth : Nat) : Nat → Read Nat
  | 0 => refuse
  | fuel + 1 => do
    match ← peek with
    | .alias name =>
      let _ ← take
      resolve name
    | _ =>
      let properties ← takeProperties
      let name ← takeName properties
      content context depth properties name fuel
termination_by structural fuel => fuel

/-- The node behind its properties. -/
def content (context : Context) (depth : Nat) (p : Properties) (name : Option Text) :
    Nat → Read Nat
  | 0 => refuse
  | fuel + 1 => do
    let scalar (text : Text) (isPlain : Bool) : Read Nat := do
      checkName p.anchor
      add p.anchor (.scalar (scalarKind name text isPlain) text)
    let list (items : Read (List Nat)) : Read Nat := do
      checkName p.anchor
      checkDepth depth
      let kind := collectionKind name .list
      let number ← add p.anchor (.list kind [])
      complete number (.list kind (← items))
      return number
    let mapping (entries : Read (List (Nat × Nat))) : Read Nat := do
      checkName p.anchor
      checkDepth depth
      let kind := collectionKind name .mapping
      let number ← add p.anchor (.mapping kind [])
      complete number (.mapping kind (← entries))
      return number
    match ← peek with
    | .scalar text isPlain =>
      let _ ← take
      scalar text isPlain
    | .flowList =>
      let _ ← take
      list (flowItems true (depth + 1) fuel)
    | .flowMapping =>
      let _ ← take
      mapping (flowEntries true (depth + 1) fuel)
    | token =>
      if token = .item ∧ context = .entry then list (looseItems (depth + 1) fuel)
      else if token = .blockList ∧ context ≠ .flow then
        let _ ← take
        list (blockItems (depth + 1) fuel)
      else if token = .blockMapping ∧ context ≠ .flow then
        let _ ← take
        mapping (blockEntries (depth + 1) fuel)
      else if p.anchor.isSome || p.shorthand.isSome then scalar [] true
      else refuse
termination_by structural fuel => fuel

/-- A node, or nothing where one of some tokens comes next. -/
def nodeUnless (ends : List Token) (context : Context) (depth : Nat) : Nat → Read Nat
  | 0 => refuse
  | fuel + 1 => do
    if ← sees ends then addEmpty else node context depth fuel
termination_by structural fuel => fuel

/-- The value behind its mark, or nothing. -/
def valueUnless (ends : List Token) (context : Context) (depth : Nat) : Nat → Read Nat
  | 0 => refuse
  | fuel + 1 => do
    if ← accept .value then nodeUnless ends context depth fuel else addEmpty
termination_by structural fuel => fuel

/-- The items of a list in a block. -/
def blockItems (depth : Nat) : Nat → Read (List Nat)
  | 0 => refuse
  | fuel + 1 => do
    if ← accept .item then
      let first ← nodeUnless [.item, .blockEnd] .block depth fuel
      return first :: (← blockItems depth fuel)
    else if ← accept .blockEnd then return []
    else refuse
termination_by structural fuel => fuel

/-- The items of a list that is not indented. -/
def looseItems (depth : Nat) : Nat → Read (List Nat)
  | 0 => refuse
  | fuel + 1 => do
    if ← accept .item then
      let first ← nodeUnless [.item, .key, .value, .blockEnd] .block depth fuel
      return first :: (← looseItems depth fuel)
    else return []
termination_by structural fuel => fuel

/-- The entries of a mapping in a block. -/
def blockEntries (depth : Nat) : Nat → Read (List (Nat × Nat))
  | 0 => refuse
  | fuel + 1 => do
    let ends := [Token.key, .value, .blockEnd]
    if ← accept .key then
      let key ← nodeUnless ends .entry depth fuel
      let value ← valueUnless ends .entry depth fuel
      return (key, value) :: (← blockEntries depth fuel)
    else if ← accept .blockEnd then return []
    else refuse
termination_by structural fuel => fuel

/-- The items of a list in brackets. An item may be a mapping with a single entry. -/
def flowItems (isFirst : Bool) (depth : Nat) : Nat → Read (List Nat)
  | 0 => refuse
  | fuel + 1 => do
    if ← accept .flowListEnd then return []
    else
      let isJoined ← if isFirst then pure true else accept .comma
      if !isJoined then refuse
      else if ← accept .key then
        checkDepth depth
        let number ← add none (.mapping .mapping [])
        let key ← nodeUnless [.value, .comma, .flowListEnd] .flow (depth + 1) fuel
        let value ← valueUnless [.comma, .flowListEnd] .flow (depth + 1) fuel
        complete number (.mapping .mapping [(key, value)])
        return number :: (← flowItems false depth fuel)
      else if ← accept .flowListEnd then return []
      else
        let first ← node .flow depth fuel
        return first :: (← flowItems false depth fuel)
termination_by structural fuel => fuel

/-- The entries of a mapping in brackets. An entry may be a key alone. -/
def flowEntries (isFirst : Bool) (depth : Nat) : Nat → Read (List (Nat × Nat))
  | 0 => refuse
  | fuel + 1 => do
    if ← accept .flowMappingEnd then return []
    else
      let isJoined ← if isFirst then pure true else accept .comma
      if !isJoined then refuse
      else if ← accept .key then
        let key ← nodeUnless [.value, .comma, .flowMappingEnd] .flow depth fuel
        let value ← valueUnless [.comma, .flowMappingEnd] .flow depth fuel
        return (key, value) :: (← flowEntries false depth fuel)
      else if ← accept .flowMappingEnd then return []
      else
        let key ← node .flow depth fuel
        return (key, ← addEmpty) :: (← flowEntries false depth fuel)
termination_by structural fuel => fuel

end

/-- The handles that need no directive. -/
def usualHandles : List (Text × Text) :=
  [("!", "!"), ("!!", Kind.namespaceName)]

/-- The directives in front of a document. -/
def directives (hasVersion : Bool) : Nat → Read Unit
  | 0 => refuse
  | fuel + 1 => do
    match ← peek with
    | .directive directive =>
      let _ ← take
      match directive with
      | .version major =>
        if hasVersion || major != 1 then throw .malformed else directives true fuel
      | .handle handle leading =>
        if (← get).handles.any fun (h, _) => h = handle then throw .malformed
        else
          modify fun s => { s with handles := (handle, leading) :: s.handles }
          directives hasVersion fuel
      | .other => directives hasVersion fuel
    | _ => modify fun s => { s with handles := s.handles ++ usualHandles }

/-- The end of the text behind marks that end a document. -/
def finish : Nat → Read Unit
  | 0 => refuse
  | fuel + 1 => do
    if ← accept .documentEnd then finish fuel
    else if (← peek) = .textEnd then return ()
    else refuse

/-- A document is empty where this comes next. -/
def isDocumentEnd : Token → Bool
  | .directive _ | .documentStart | .documentEnd | .textEnd => true
  | _ => false

/-- The number of the node of the one document, if there is any. -/
def document : Read (Option Nat) := do
  let fuel := 4 * (← get).rest.length + 8
  match ← peek with
  | .textEnd => return none
  | .directive _ | .documentStart =>
    directives false fuel
    if ← accept .documentStart then
      let root ← if isDocumentEnd (← peek) then addEmpty else node .block 0 fuel
      finish fuel
      return some root
    else refuse
  | _ =>
    modify fun s => { s with handles := usualHandles }
    let root ← node .block 0 fuel
    finish fuel
    return some root

end Read

/-- The one document of some tokens, if there is any. -/
def Composition.ofTokens (tokens : List Token) : Except Fault (Option Composition) := do
  let (root, reading) ← Read.document.run ⟨tokens, #[], [], []⟩
  return root.map fun root => ⟨reading.graph, root⟩

end Mailroom.Yaml
