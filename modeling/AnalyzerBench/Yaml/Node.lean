import AnalyzerBench.Yaml.Token

/-!
# Nodes of a YAML document

A node is a scalar, a sequence or a mapping, with a tag and an anchor if it has them, or an alias.  Anchors are
numbered in the order of the document.  An anchor of a name that is in use takes the count of the names as its number,
and the next new name takes the same number again, so of two nodes with one number the later one is meant.
-/

namespace AnalyzerBench.Yaml

/-- The properties of a node. -/
structure Properties where
  anchor : Option Nat := none
  tag : Option TagText := none
  deriving Repr

/-- The properties that count where a tag around the node may hide its own one. -/
def Properties.seen (p : Properties) (hidden : Bool) : Properties := if hidden then { p with tag := none } else p

inductive Node where
  | alias (anchor : Nat)
  | scalar (properties : Properties) (plain : Bool) (text : List Char)
  | sequence (properties : Properties) (items : List Node)
  | mapping (properties : Properties) (entries : List (Node × Node))
  deriving Repr

namespace Node

/-- A plain scalar without text. -/
def empty : Node := .scalar {} true []

/-- Whether a node is an alias. -/
def isAlias : Node → Bool
  | .alias _ => true
  | _ => false

/-- The number of an anchored node. -/
def anchor? : Node → Option Nat
  | .alias _ => none
  | .scalar p _ _ => p.anchor
  | .sequence p _ => p.anchor
  | .mapping p _ => p.anchor

mutual

/-- The nodes at and below a node, in the order of the document. -/
def parts : Node → List Node
  | .sequence p items => .sequence p items :: partsOfItems items
  | .mapping p entries => .mapping p entries :: partsOfEntries entries
  | n => [n]

def partsOfItems : List Node → List Node
  | [] => []
  | n :: ns => n.parts ++ partsOfItems ns

def partsOfEntries : List (Node × Node) → List Node
  | [] => []
  | (k, v) :: es => k.parts ++ v.parts ++ partsOfEntries es

end

/-- The anchored nodes at and below a node with their numbers, the last one first. -/
def anchored (n : Node) : List (Nat × Node) :=
  (n.parts.filterMap fun n => n.anchor?.map (·, n)).reverse

/-- The count of marks in the document: one for a scalar or an alias, two for a collection. -/
def markCount (n : Node) : Nat :=
  n.parts.foldl (fun count part =>
    match part with
    | .sequence _ _ | .mapping _ _ => count + 2
    | _ => count + 1) 0

end Node

end AnalyzerBench.Yaml
