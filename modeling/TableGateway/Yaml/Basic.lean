import TableGateway.Yaml.Token

/-!
# YAML documents

A document is a tree of nodes. A node may be an alias for another one, so that the tree may go around in
a circle; what an alias means is only looked up when its node is read, and not without end.
-/

namespace TableGateway.Yaml

/-- What may be said of a node before its content. A tag is given by its octets. -/
structure Properties where
  anchor : Option Nat
  tag : Option (List UInt8)
  deriving DecidableEq

/-- No properties. -/
def Properties.none : Properties :=
  ⟨.none, .none⟩

/-- A node of a document. An alias is given by the number of its anchor. -/
inductive Node where
  | reference (anchor : Nat)
  | scalar (properties : Properties) (style : Style) (text : String)
  | sequence (properties : Properties) (items : List Node)
  | mapping (properties : Properties) (members : List (Node × Node))

namespace Node

/-- The node of a place where nothing is written. -/
def empty (properties : Properties) : Node :=
  scalar properties .plain ""

/-- A node with the number of its anchor, if it has one. -/
def withAnchor (node : Node) (properties : Properties) : List (Nat × Node) :=
  properties.anchor.toList.map (·, node)

mutual

/-- The nodes with anchors in a node, in the order in which they start. -/
def anchored (node : Node) : List (Nat × Node) :=
  match node with
  | reference _ => []
  | scalar properties _ _ => node.withAnchor properties
  | sequence properties items => node.withAnchor properties ++ anchoredItems items
  | mapping properties members => node.withAnchor properties ++ anchoredMembers members

/-- The nodes with anchors in the items of a sequence. -/
def anchoredItems : List Node → List (Nat × Node)
  | [] => []
  | item :: rest => item.anchored ++ anchoredItems rest

/-- The nodes with anchors in the members of a mapping. -/
def anchoredMembers : List (Node × Node) → List (Nat × Node)
  | [] => []
  | (name, value) :: rest => name.anchored ++ value.anchored ++ anchoredMembers rest

end

mutual

/-- The number of events that a node is written as: one for a scalar or an alias, and one for the start
and one for the end of a collection. -/
def events : Node → Nat
  | reference _ | scalar .. => 1
  | sequence _ items => 2 + eventsOfItems items
  | mapping _ members => 2 + eventsOfMembers members

/-- The number of events of the items of a sequence. -/
def eventsOfItems : List Node → Nat
  | [] => 0
  | item :: rest => item.events + eventsOfItems rest

/-- The number of events of the members of a mapping. -/
def eventsOfMembers : List (Node × Node) → Nat
  | [] => 0
  | (name, value) :: rest => name.events + value.events + eventsOfMembers rest

end

end Node

/-- A document: its root, and its nodes with anchors. -/
structure Document where
  root : Node
  anchored : List (Nat × Node)

namespace Document

/-- The document with a given root. -/
def ofRoot (root : Node) : Document :=
  ⟨root, root.anchored⟩

/-- The number of aliases that may be followed in reading a document. -/
def aliasLimit (document : Document) : Nat :=
  100 * document.root.events

/-- The node with an anchor of a given number. Of several, an alias means the last. -/
def withAnchor? (document : Document) (anchor : Nat) : Option Node :=
  document.anchored.reverse.lookup anchor

end Document

end TableGateway.Yaml
