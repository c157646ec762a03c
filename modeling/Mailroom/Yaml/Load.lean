import Mailroom.Yaml.Merge
import Mailroom.Yaml.Node.Reader
import Mailroom.Yaml.Scalar
import Mailroom.Yaml.Source
import Mailroom.Yaml.Token.Lexer

/-!
# The value of a YAML text

Collections are built from the outside inwards, one level after the other: a collection is
there, and can be named, before it is filled.

* `Yaml.Building`: the nodes, what has been made of them, and the collections yet to be filled;
* `Building.valueOf`: the value of a node;
* `Building.fill`: what is in a collection;
* `Yaml.load`: the value of the text in a file.
-/

namespace Mailroom.Yaml

/-- Nodes of this kind are collections. -/
def Kind.isCollection : Kind → Bool
  | list | mapping | orderedMapping | pairs | set => true
  | _ => false

/-- The nodes, the values of some of them, the collections by the numbers of their nodes, and
those yet to be filled, the latest first. -/
structure Building where
  graph : Graph
  made : Array (Option Value)
  parts : Parts
  waiting : List Nat

/-- A step of building. -/
abbrev Build (α : Type) := StateT Building (Except Fault) α

namespace Build

/-- The text of a scalar, or of the one that a mapping stands for. -/
def scalarText (g : Graph) : Nat → Nat → Except Fault Text
  | 0, _ => .error (.breakdown .nestedTooDeeply)
  | bound + 1, number => match g.node number with
    | .scalar _ text => .ok text
    | .mapping _ entries =>
      match entries.find? fun entry => (g.node entry.1).kind = .defaultValue with
      | some (_, value) => scalarText g bound value
      | none => .error .malformed
    | .list .. => .error .malformed

/-- A mapping cannot stand for a time. -/
def checkTime (node : Node) : Except Fault Unit :=
  match node with
  | .mapping .time _ => .error (.breakdown .mappingAsTime)
  | _ => .ok ()

/-- The value of a node that is no collection. -/
def scalarValue (g : Graph) (number : Nat) : Except Fault Scalar := do
  let node := g.node number
  if node.kind = .unknown || node.kind = .merge || node.kind = .defaultValue then
    throw .malformed
  else
    let text ← scalarText g (g.size + 1) number
    checkTime node
    scalarOf node.kind text

/-- The value of a node. That of a collection is its number, and it has yet to be filled. -/
def valueOf (number : Nat) : Build Value := do
  let s ← get
  match (s.made[number]?).join with
  | some v => return v
  | none =>
    if (s.graph.node number).kind.isCollection then
      let v := Value.part number
      set { s with made := s.made.setIfInBounds number (some v), waiting := number :: s.waiting }
      return v
    else
      let v := Value.scalar (← scalarValue s.graph number)
      set { s with made := s.made.setIfInBounds number (some v) }
      return v

/-- The value of a node as a key: a single one. -/
def keyOf (number : Nat) : Build Scalar := do
  match ← valueOf number with
  | .scalar s => return s
  | _ => throw .malformed

/-- A key with what sets it apart from others that look the same: what is no number is equal to
nothing but itself. -/
structure Key where
  scalar : Scalar
  origin : Option Nat
deriving DecidableEq

/-- Two keys are taken for one. -/
def Key.same (a b : Key) : Bool :=
  a.scalar.sameKey b.scalar
    || (a.scalar = .real .undefined && b.scalar = .real .undefined && a.origin = b.origin)

/-- The text is the usual word for what is no number; there is only one such value. -/
def isUsualUndefined (text : Text) : Bool :=
  Kind.withoutSign (Text.lower (withoutLines text)) = Text.ofString ".nan"

/-- A key and where it comes from. -/
def keyFrom (number : Nat) : Build Key := do
  let scalar ← keyOf number
  let g := (← get).graph
  match scalarText g (g.size + 1) number with
  | .ok text => return ⟨scalar, if isUsualUndefined text then none else some number⟩
  | .error _ => return ⟨scalar, some number⟩

/-- The entries of a mapping, those it takes over included. -/
def entriesOf (number : Nat) : Build (List (Key × Value)) := do
  let s ← get
  match s.graph.node number with
  | .mapping .. =>
    let ((), graph) ← (Graph.takeOver number).run s.graph
    set { s with graph := graph }
    match graph.node number with
    | .mapping _ entries =>
      entries.foldlM (fun found entry => do
        let key ← keyFrom entry.1
        let value ← valueOf entry.2
        return Value.put Key.same key value found) []
    | _ => throw .malformed
  | _ => throw .malformed

/-- The pair that a mapping with a single entry is. -/
def pairOf (number : Nat) : Build (Value × Value) := do
  match (← get).graph.node number with
  | .mapping _ [(key, value)] => do
    let k ← valueOf key
    let v ← valueOf value
    return (k, v)
  | _ => throw .malformed

/-- The nodes in a list. -/
def itemsOf (number : Nat) : Build (List Nat) := do
  match (← get).graph.node number with
  | .list _ items => return items
  | _ => throw .malformed

/-- What is in a collection. -/
def contents (number : Nat) : Build Value := do
  match ((← get).graph.node number).kind with
  | .list => return .list (← (← itemsOf number).mapM valueOf)
  | .orderedMapping | .pairs => return .pairs (← (← itemsOf number).mapM pairOf)
  | .mapping => return .mapping ((← entriesOf number).map fun (key, v) => (key.scalar, v))
  | .set => return .members ((← entriesOf number).map fun (key, _) => key.scalar)
  | _ => throw .malformed

/-- A collection is filled. -/
def fill (number : Nat) : Build Unit := do
  let v ← contents number
  modify fun s => { s with parts := s.parts.setIfInBounds number v }

/-- All collections are filled, one level after the other. The bound is the number of nodes. -/
def fillAll : Nat → Build Unit
  | 0 => return ()
  | bound + 1 => do
    let s ← get
    match s.waiting.reverse with
    | [] => return ()
    | level =>
      set { s with waiting := [] }
      level.forM fill
      fillAll bound

/-- The value of a node with all that is in it. -/
def document (root : Nat) : Build Document := do
  let v ← valueOf root
  fillAll ((← get).graph.size + 1)
  return ⟨v, (← get).parts⟩

end Build

/-- The value of the nodes of a document. -/
def Composition.toDocument (c : Composition) : Except Fault Document :=
  let size := c.graph.size
  let start : Building :=
    ⟨c.graph, Array.replicate size none, Array.replicate size (.scalar .null), []⟩
  ((Build.document c.root).run start).map (·.1)

/-- The value of the text in a file; that of an empty one is missing. -/
def load (octets : Octets) : Except Fault Document := do
  let text ← source octets
  match ← Composition.ofTokens (tokens text) with
  | some composition => composition.toDocument
  | none => return .ofValue (.scalar .null)

end Mailroom.Yaml
