import DroneSession.Yaml.Tag
import DroneSession.Yaml.Token

namespace DroneSession

/-!
# Nodes of a document

A document is a tree of scalars, sequences and mappings.  An alias stands for the node that carries
an anchor, which may be anywhere in the document.
-/

namespace Yaml

/-- A node of a document. -/
inductive Node where
  | scalar (tag : Option Tag) (style : ScalarStyle) (text : String)
  | sequence (tag : Option Tag) (items : List Node)
  | mapping (tag : Option Tag) (entries : List (Node × Node))
  /-- The node whose anchor has a number. -/
  | alias (anchor : Nat)

namespace Node

/-- A scalar that stands for nothing. -/
def absent : Node :=
  .scalar none .plain ""

instance : Inhabited Node :=
  ⟨absent⟩

mutual

/-- The size of a node; a collection counts its start and its end. -/
def weight : Node → Nat
  | .scalar .. => 1
  | .alias _ => 1
  | .sequence _ items => 2 + weightOfItems items
  | .mapping _ entries => 2 + weightOfEntries entries

/-- The weight of items is that of all of them. -/
def weightOfItems : List Node → Nat
  | [] => 0
  | item :: items => weight item + weightOfItems items

/-- The size of several pairs of nodes. -/
def weightOfEntries : List (Node × Node) → Nat
  | [] => 0
  | (key, value) :: entries => weight key + weight value + weightOfEntries entries

end

end Node

/-- A node that has an anchor. -/
structure AnchoredNode where
  /-- The number of the anchor. -/
  anchor : Nat
  /-- The number of tokens from its content to the end of the document. -/
  remaining : Nat
  node : Node

/-- A document: its root, and the nodes that aliases can lead to. -/
structure Document where
  root : Node
  anchored : List AnchoredNode

namespace Document

/-- The node that an alias stands for. -/
def target?
    (document : Document)
    (anchor : Nat) :
    Option Node :=
  (document.anchored.find? fun entry => entry.anchor == anchor).map AnchoredNode.node

end Document

end Yaml

end DroneSession
