import StepRecorder.Yaml.Token

/-!
Nodes: what a YAML document consists of. A node can be marked by an anchor, and an alias stands for
the node that an anchor marks. Anchors are numbered by how many names are in use when they are met:
a name that is used again is numbered anew, and the next new name gets that number, too. Of nodes
with one number, the one that began last counts, also for the aliases before it.
-/

namespace StepRecorder.Yaml

/-- A node. Of tags, only those of scalars have a meaning. -/
inductive Node where
  | scalar (style : Style) (tag : Option Bytes) (text : Text)
  | sequence (items : List Node)
  | mapping (entries : List (Node × Node))
  | alias (number : Nat)

/-- The node that is not written. -/
def Node.empty : Node := .scalar .plain none []

/-- A node with the number of its anchor, and its place in the order of the anchors. -/
structure Anchored where
  number : Nat
  place : Nat
  node : Node

/-- A document: its root and all nodes with an anchor. -/
structure Document where
  root : Node := .empty
  anchored : List Anchored := []

namespace Document

/-- The later of two anchored nodes. -/
def later : Option Anchored → Anchored → Option Anchored
  | none, next => some next
  | some last, next => if last.place < next.place then some next else some last

/-- The node with the anchor of a number. -/
def marked? (document : Document) (number : Nat) : Option Node :=
  ((document.anchored.filter (·.number = number)).foldl later none).map (·.node)

/-- The node that a node stands for, which is no alias. -/
def resolve? (document : Document) : Node → Option Node
  | .alias number => document.marked? number
  | node => some node

end Document
end StepRecorder.Yaml
