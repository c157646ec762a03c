import Mailroom.Yaml.Kind

/-!
# Nodes of a YAML document

* `Yaml.Node`: scalars, lists and mappings, each with its kind; what is in a list or mapping is
  named by number, so that a node can be in several others, and in itself;
* `Yaml.Graph`: the nodes by number.
-/

namespace Mailroom.Yaml

/-- A node. The nodes in it are named by number. -/
inductive Node where
  | scalar (kind : Kind) (text : Text)
  | list (kind : Kind) (items : List Nat)
  | mapping (kind : Kind) (entries : List (Nat × Nat))
deriving DecidableEq

namespace Node

/-- The node of what is left out. -/
def empty : Node := scalar .null []

instance : Inhabited Node := ⟨empty⟩

/-- The kind of a node. -/
def kind : Node → Kind
  | scalar kind _ | list kind _ | mapping kind _ => kind

/-- The node as one of another kind. -/
def withKind (kind : Kind) : Node → Node
  | scalar _ text => scalar kind text
  | list _ items => list kind items
  | mapping _ entries => mapping kind entries

/-- How many entries a mapping has. -/
def entryCount : Node → Nat
  | mapping _ entries => entries.length
  | _ => 0

@[simp] theorem kind_withKind (kind : Kind) (node : Node) : (node.withKind kind).kind = kind := by
  cases node <;> rfl

end Node

/-- Nodes by number. -/
abbrev Graph := Array Node

namespace Graph

/-- The node with a number. -/
def node (g : Graph) (number : Nat) : Node := (g[number]?).getD .empty

/-- The graph in which the node with a number is another one. -/
def put (g : Graph) (number : Nat) (node : Node) : Graph := g.setIfInBounds number node

/-- How many entries all mappings have. -/
def entryCount (g : Graph) : Nat := g.foldl (fun n node => n + node.entryCount) 0

end Graph

/-- The nodes of a document, and the number of the one that all others are in. -/
structure Composition where
  graph : Graph
  root : Nat

end Mailroom.Yaml
