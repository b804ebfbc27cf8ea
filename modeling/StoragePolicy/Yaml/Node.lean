import StoragePolicy.Yaml.Token

/-!
# Nodes

The content of a YAML document as a tree. A scalar keeps its text, its style
and its tag and is given a type only by whoever reads it. An alias stays an
alias: it names an anchor by number, and the document knows what was anchored
under it. That way a node that holds an alias to itself is still a finite tree.

## Main definitions

* `Node`: The tree.
* `Document`: A tree with what is anchored in it.
* `Document.follow`: The node behind an alias.
-/

namespace StoragePolicy

namespace Yaml

/-- The content of a document. -/
inductive Node where
  | scalar (value : String) (style : Style) (tag : Option String)
  | sequence (items : List Node)
  | mapping (entries : List (Node × Node))
  | alias (anchor : Nat)

mutual

/-- Nodes are compared from the top, and what they hold item by item. -/
def Node.decideEq : (a b : Node) → Decidable (a = b)
  | .scalar value style tag, .scalar value' style' tag' =>
    decidable_of_iff (value = value' ∧ style = style' ∧ tag = tag') (by simp)
  | .sequence items, .sequence items' =>
    have := Node.decideItems items items'
    decidable_of_iff (items = items') (by simp)
  | .mapping entries, .mapping entries' =>
    have := Node.decideEntries entries entries'
    decidable_of_iff (entries = entries') (by simp)
  | .alias anchor, .alias anchor' => decidable_of_iff (anchor = anchor') (by simp)
  | .scalar .., .sequence _ | .scalar .., .mapping _ | .scalar .., .alias _ => isFalse nofun
  | .sequence _, .scalar .. | .sequence _, .mapping _ | .sequence _, .alias _ => isFalse nofun
  | .mapping _, .scalar .. | .mapping _, .sequence _ | .mapping _, .alias _ => isFalse nofun
  | .alias _, .scalar .. | .alias _, .sequence _ | .alias _, .mapping _ => isFalse nofun

def Node.decideItems : (as bs : List Node) → Decidable (as = bs)
  | [], [] => isTrue rfl
  | [], _ :: _ => isFalse nofun
  | _ :: _, [] => isFalse nofun
  | a :: as, b :: bs =>
    have := Node.decideEq a b
    have := Node.decideItems as bs
    decidable_of_iff (a = b ∧ as = bs) (by simp)

def Node.decideEntries : (es fs : List (Node × Node)) → Decidable (es = fs)
  | [], [] => isTrue rfl
  | [], _ :: _ => isFalse nofun
  | _ :: _, [] => isFalse nofun
  | (k, v) :: es, (k', v') :: fs =>
    have := Node.decideEq k k'
    have := Node.decideEq v v'
    have := Node.decideEntries es fs
    decidable_of_iff ((k = k' ∧ v = v') ∧ es = fs) (by simp)

end

instance : DecidableEq Node := Node.decideEq

/-- The node that stands where nothing is written. -/
def Node.empty : Node := .scalar "" .plain none

/-- A tree with the nodes that are anchored in it, the latest first. -/
structure Document where
  root : Node
  anchored : List (Nat × Node) := []
  deriving DecidableEq

/-- A document without anchors. -/
def Document.ofNode (root : Node) : Document := { root }

/-- The node behind an alias; every other node stands for itself. An anchored
    node is never an alias, so one step is enough. -/
def Document.follow (d : Document) : Node → Option Node
  | .alias anchor => (d.anchored.find? fun entry => entry.1 = anchor).map Prod.snd
  | node => some node

end Yaml

end StoragePolicy
