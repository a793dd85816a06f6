import Keychord.Yaml.Cursor
import Keychord.Yaml.Tag

/-!
# Nodes of a YAML document

A document is a tree of scalars, sequences and mappings. A node may have a tag, and a slot
under which aliases elsewhere in the document find it. Where the text of a document breaks
off because of a fault, the tree has a broken node: what stands before it can be read, and
whoever comes to it learns of the fault.
-/
namespace Keychord.Yaml

/-- Where a node begins, and what stands in front of it: its tag, and the slot for aliases of
it. -/
structure Properties where
  start : Position := {}
  tag : Option Tag := none
  slot : Option Nat := none

inductive Node where
  | scalar (properties : Properties) (plain : Bool) (text : String)
  | sequence (properties : Properties) (items : List Node)
  | mapping (properties : Properties) (entries : List (Node × Node))
  | alias (start : Position) (slot : Nat)
  | broken

namespace Node

/-- The scalar that stands where no node is written. -/
def empty (start : Position) : Node := .scalar { start } true ""

/-- Where the node begins. A broken one is nowhere. -/
def start : Node → Position
  | .scalar properties _ _ | .sequence properties _ | .mapping properties _ => properties.start
  | .alias start _ => start
  | .broken => {}

mutual

/-- Nothing in the node is broken. What aliases stand for does not count. -/
def isWhole : Node → Bool
  | .broken => false
  | .sequence _ items => allWhole items
  | .mapping _ entries => allWholeEntries entries
  | _ => true

def allWhole : List Node → Bool
  | [] => true
  | item :: items => item.isWhole && allWhole items

def allWholeEntries : List (Node × Node) → Bool
  | [] => true
  | (key, content) :: entries => key.isWhole && content.isWhole && allWholeEntries entries

end

mutual

/-- How many marks the node takes to write down: one for a scalar or an alias, two around the
content of a collection, of which the second is missing if the content breaks off. -/
def size : Node → Nat
  | .broken => 0
  | .sequence _ items => 1 + sizeOfItems items + (if allWhole items then 1 else 0)
  | .mapping _ entries => 1 + sizeOfEntries entries + (if allWholeEntries entries then 1 else 0)
  | _ => 1

def sizeOfItems : List Node → Nat
  | [] => 0
  | item :: items => item.size + sizeOfItems items

def sizeOfEntries : List (Node × Node) → Nat
  | [] => 0
  | (key, content) :: entries => key.size + content.size + sizeOfEntries entries

end

mutual

/-- The node and all nodes in it, in the order in which they begin. -/
def parts : Node → List Node
  | .sequence properties items => .sequence properties items :: partsOfItems items
  | .mapping properties entries => .mapping properties entries :: partsOfEntries entries
  | node => [node]

def partsOfItems : List Node → List Node
  | [] => []
  | item :: items => item.parts ++ partsOfItems items

def partsOfEntries : List (Node × Node) → List Node
  | [] => []
  | (key, content) :: entries => key.parts ++ content.parts ++ partsOfEntries entries

end

def slot? : Node → Option Nat
  | .scalar properties _ _ | .sequence properties _ | .mapping properties _ => properties.slot
  | .alias _ _ | .broken => none

/-- The nodes in the node that have a slot, by their slots, the last ones first. -/
def anchored (root : Node) : List (Nat × Node) :=
  (root.parts.filterMap fun node => node.slot?.map (·, node)).reverse

end Node
end Keychord.Yaml
