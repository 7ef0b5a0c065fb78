import AnalyzerBench.Yaml.Node

/-!
# Nodes from tokens

The grammar of YAML over tokens.  A text holds at most one document.  Where a node is left out, an empty plain scalar
stands for it.
-/

namespace AnalyzerBench.Yaml

namespace Grammar

/-- The tokens that are left, and the names that the document has introduced. -/
structure Input where
  tokens : List Token
  /-- The expansions of tag handles. -/
  handles : List (List Char × TagText) := []
  /-- The anchors with their numbers, each name once. -/
  anchors : List (List Char × Nat) := []

/-- A part of the grammar, which takes tokens away and fails if they do not fit. -/
abbrev Rule := StateT Input Option

/-- The next token. -/
def peek : Rule Token := do
  return (← get).tokens.headD .streamEnd

/-- Takes the next token away. -/
def skip : Rule Unit := modify fun g => { g with tokens := g.tokens.drop 1 }

/-- Takes the next token away if it is `t`. -/
def accept (t : Token) : Rule Bool := do
  if (← peek) = t then
    skip
    return true
  else return false

/-- Whether the next token is one of `ts`. -/
def sees (ts : List Token) : Rule Bool := do
  return ts.contains (← peek)

/-- Takes a comma away, which every item of a flow collection but the first needs before it. -/
def separator (first : Bool) : Rule Unit := do
  if first then return ()
  if ← accept .flowEntry then return () else failure

/-! ### Properties -/

/-- Introduces an anchor. -/
def introduce (name : List Char) : Rule Nat := do
  let number := (← get).anchors.length
  modify fun g => { g with anchors := (name, number) :: g.anchors.filter (·.1 != name) }
  return number

/-- The number of an anchor. -/
def anchorNumber (name : List Char) : Rule Nat := do
  match (← get).anchors.lookup name with
  | some number => return number
  | none => failure

/-- A tag with its handle expanded. -/
def expand (handle : List Char) (suffix : TagText) : Rule TagText := do
  if handle.isEmpty then return suffix
  match (← get).handles.lookup handle with
  | some expansion => return expansion ++ suffix
  | none => failure

def anchorProperty : Rule (Option (List Char)) := do
  match ← peek with
  | .anchor name =>
    skip
    return some name
  | _ => return none

def tagProperty : Rule (Option (List Char × TagText)) := do
  match ← peek with
  | .tag handle suffix =>
    skip
    return some (handle, suffix)
  | _ => return none

/-- An anchor and a tag, either of which may be absent and come first. -/
def properties : Rule (Option (List Char) × Option TagText) := do
  let first ← anchorProperty
  let tag ← tagProperty
  let name ← if first.isSome then pure first else anchorProperty
  match tag with
  | none => return (name, none)
  | some (handle, suffix) => return (name, some (← expand handle suffix))

/-! ### Nodes -/

/-- Where a node stands: in a block or in a flow collection, and whether a sequence here needs no indentation. -/
structure Place where
  block : Bool
  unindented : Bool := false

mutual

/-- One node; the flags tell where it stands. -/
def node : (steps : Nat) → Place → Rule Node
  | 0, _ => failure
  | steps + 1, place => do
    match ← peek with
    | .alias name =>
      let number ← anchorNumber name
      skip
      return .alias number
    | _ =>
      let (name, tag) ← properties
      let anchor ← name.mapM introduce
      let p : Properties := { anchor, tag }
      match ← peek with
      | .scalar plain text =>
        skip
        return .scalar p plain text
      | .flowSequenceStart =>
        skip
        return .sequence p (← flowItems steps true)
      | .flowMappingStart =>
        skip
        return .mapping p (← flowEntries steps true)
      | t =>
        if place.unindented && t = .blockEntry then return .sequence p (← unindentedItems steps)
        else if place.block && t = .blockSequenceStart then
          skip
          return .sequence p (← blockItems steps)
        else if place.block && t = .blockMappingStart then
          skip
          return .mapping p (← blockEntries steps)
        else if anchor.isSome || tag.isSome then return .scalar p true []
        else failure

/-- A node, or an empty one before the tokens `ends`. -/
def nodeBefore : (steps : Nat) → Place → (ends : List Token) → Rule Node
  | 0, _, _ => failure
  | steps + 1, place, ends => do
    if ← sees ends then return .empty else node steps place

/-- The items of a block sequence. -/
def blockItems : (steps : Nat) → Rule (List Node)
  | 0 => failure
  | steps + 1 => do
    if ← accept .blockEntry then
      let item ← nodeBefore steps { block := true } [.blockEntry, .blockEnd]
      return item :: (← blockItems steps)
    else if ← accept .blockEnd then return []
    else failure

/-- The items of a block sequence that is indented no deeper than the key before it. -/
def unindentedItems : (steps : Nat) → Rule (List Node)
  | 0 => failure
  | steps + 1 => do
    if ← accept .blockEntry then
      let item ← nodeBefore steps { block := true } [.blockEntry, .key, .value, .blockEnd]
      return item :: (← unindentedItems steps)
    else return []

/-- The entries of a block mapping. -/
def blockEntries : (steps : Nat) → Rule (List (Node × Node))
  | 0 => failure
  | steps + 1 => do
    if ← accept .key then
      let place : Place := { block := true, unindented := true }
      let key ← nodeBefore steps place [.key, .value, .blockEnd]
      let value ← if ← accept .value then nodeBefore steps place [.key, .value, .blockEnd] else pure .empty
      return (key, value) :: (← blockEntries steps)
    else if ← accept .blockEnd then return []
    else failure

/-- The items of a flow sequence.  A key makes an item a mapping of one entry. -/
def flowItems : (steps : Nat) → (first : Bool) → Rule (List Node)
  | 0, _ => failure
  | steps + 1, first => do
    if ← accept .flowSequenceEnd then return []
    else
      separator first
      if ← accept .key then
        let entry ← pair steps
        return .mapping {} [entry] :: (← flowItems steps false)
      else if ← accept .flowSequenceEnd then return []
      else
        let item ← node steps { block := false }
        return item :: (← flowItems steps false)

/-- The single entry of a mapping without braces.  Where its key is left out, the token after the key mark goes with
it. -/
def pair : (steps : Nat) → Rule (Node × Node)
  | 0 => failure
  | steps + 1 => do
    let key ← if ← sees [.value, .flowEntry, .flowSequenceEnd] then
        skip
        pure .empty
      else node steps { block := false }
    let value ← if ← accept .value then nodeBefore steps { block := false } [.flowEntry, .flowSequenceEnd]
      else pure .empty
    return (key, value)

/-- The entries of a flow mapping. -/
def flowEntries : (steps : Nat) → (first : Bool) → Rule (List (Node × Node))
  | 0, _ => failure
  | steps + 1, first => do
    if ← accept .flowMappingEnd then return []
    else
      separator first
      if ← accept .key then
        let key ← nodeBefore steps { block := false } [.value, .flowEntry, .flowMappingEnd]
        let value ← if ← accept .value then nodeBefore steps { block := false } [.flowEntry, .flowMappingEnd]
          else pure .empty
        return (key, value) :: (← flowEntries steps false)
      else if ← accept .flowMappingEnd then return []
      else
        let key ← node steps { block := false }
        return (key, .empty) :: (← flowEntries steps false)

end

/-! ### Documents -/

/-- Reads the directives before a document: at most one version, which must be 1.1 or 1.2, and each handle once. -/
def directives : (steps : Nat) → (version : Bool) → Rule Unit
  | 0, _ => failure
  | steps + 1, version => do
    match ← peek with
    | .version major minor =>
      if version || major ≠ 1 || (minor ≠ 1 && minor ≠ 2) then failure
      skip
      directives steps true
    | .tagShorthand handle expansion =>
      if ((← get).handles.lookup handle).isSome then failure
      skip
      modify fun g => { g with handles := (handle, expansion) :: g.handles }
      directives steps version
    | _ => return ()

/-- The handles that every document knows. -/
def standardHandles : List (List Char × TagText) :=
  [(['!'], [some '!']), (['!', '!'], "tag:yaml.org,2002:".toList.map some)]

/-- Skips the marks that end a document; then nothing may follow. -/
def nothingMore : (steps : Nat) → Rule Unit
  | 0 => failure
  | steps + 1 => do
    match ← peek with
    | .documentEnd =>
      skip
      nothingMore steps
    | .streamEnd => return ()
    | _ => failure

/-- The node of the one document, or none if there is no document. -/
def document (steps : Nat) : Rule (Option Node) := do
  match ← peek with
  | .streamEnd => return none
  | t =>
    let explicit := match t with
      | .version _ _ | .tagShorthand _ _ | .documentStart => true
      | _ => false
    if explicit then
      directives steps false
      if !(← accept .documentStart) then failure
    modify fun g => { g with handles := g.handles ++ standardHandles }
    let leftOut ← sees [.documentEnd, .streamEnd]
    let node ← if explicit && leftOut then pure Node.empty else node steps { block := true }
    nothingMore steps
    return some node

end Grammar

/-- The node of the document with the given tokens: `some none` if there is no document, `none` if the tokens are no
single document. -/
def Node.ofTokens? (tokens : List Token) : Option (Option Node) :=
  (Grammar.document (4 * tokens.length + 4)).run' { tokens }

end AnalyzerBench.Yaml
