import AnalyzerBench.Yaml.Node.Grammar
import AnalyzerBench.Yaml.Scalar
import AnalyzerBench.Yaml.Token.Stream

/-!
# The value of a document

Aliases are replaced by the nodes they mean.  Collections may be nested 128 deep, aliases included, and aliases may be
followed a hundred times for every mark of the document; so a document that contains itself, or that grows without
measure, is refused.

A local tag on a mapping speaks for the keys as well: a key that is written in such a mapping is read as if it had no
tag of its own, and so are the keys within it.  The values of the mapping, the items of a key that is a sequence and
the nodes that aliases bring keep their tags.
-/

namespace AnalyzerBench.Yaml

/-- What a document says about its aliases. -/
structure Anchors where
  /-- The anchored nodes with their numbers, the one that is meant first. -/
  nodes : List (Nat × Node)
  /-- How often aliases may be followed. -/
  limit : Nat

/-- The anchors of a document. -/
def Anchors.ofNode (n : Node) : Anchors := { nodes := n.anchored, limit := 100 * n.markCount }

namespace Value

/-- Building a value, with the count of aliases followed so far; it may fail. -/
abbrev Build := StateT Nat Option

/-- The node that is meant by a node: an alias means the node it names. -/
def meant (anchors : Anchors) : Node → Build Node
  | .alias anchor => do
    let followed := (← get) + 1
    set followed
    match anchors.nodes.lookup anchor with
    | some n => if followed ≤ anchors.limit then return n else failure
    | none => failure
  | n => return n

/-- A value under the local tag of its node, if it has one. -/
def underTag (tag : Option TagText) (v : Value) : Value :=
  match tag.bind Scalar.localTag? with
  | some name => .tagged name v
  | none => v

/-- The value of a scalar node. -/
def ofScalar (p : Properties) (plain : Bool) (text : List Char) : Build Value := fun followed =>
  let tag := if (p.tag.bind Scalar.localTag?).isSome then none else p.tag
  (Scalar.value? tag plain text).map fun v => (underTag p.tag v, followed)

/-- The value of a mapping, whose keys must differ. -/
def ofEntries (p : Properties) (entries : List (Value × Value)) : Build Value :=
  if repeats (entries.map (·.1)) then failure else return underTag p.tag (.mapping entries)

/-- The value of a node that holds collections nested at most `depth` deep.  If `hidden` holds, a tag around the node
hides the tag of the node itself and those of its keys. -/
def ofNodeWithin (anchors : Anchors) : (depth : Nat) → (hidden : Bool) → Node → Build Value
  | 0, hidden, n => do
    let hidden := hidden && !n.isAlias
    match ← meant anchors n with
    | .scalar p plain text => ofScalar (p.seen hidden) plain text
    | _ => failure
  | depth + 1, hidden, n => do
    let hidden := hidden && !n.isAlias
    match ← meant anchors n with
    | .scalar p plain text => ofScalar (p.seen hidden) plain text
    | .sequence p items =>
      return underTag (p.seen hidden).tag (.sequence (← items.mapM (ofNodeWithin anchors depth false)))
    | .mapping p entries =>
      ofEntries (p.seen hidden) (← entries.mapM fun (k, v) => do
        let k ← ofNodeWithin anchors depth (hidden || (p.tag.bind Scalar.localTag?).isSome) k
        let v ← ofNodeWithin anchors depth false v
        return (k, v))
    | .alias _ => failure

/-- The value of a document's node. -/
def ofNode? (n : Node) : Option Value := (ofNodeWithin (Anchors.ofNode n) 128 false n).run' 0

/-- The value of a text that is a single YAML document; a text without a document is null. -/
def ofText? (s : String) : Option Value := do
  let tokens ← Token.ofText? s.toList
  match ← Node.ofTokens? tokens with
  | none => some .null
  | some n => ofNode? n

end Value

end AnalyzerBench.Yaml
