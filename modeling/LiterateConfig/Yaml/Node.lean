import LiterateConfig.Yaml.Meaning
import LiterateConfig.Yaml.Stream

/-!
# The nodes of a document

The tokens of a document form a graph: texts, sequences and mappings, each with
a kind. A node with an anchor can be used again further on, even within itself.
A stream has at most one document.
-/
namespace LiterateConfig.Yaml

inductive Node where
  | scalar (kind : Kind) (text : String)
  | sequence (kind : Kind) (items : List Nat)
  | mapping (kind : Kind) (pairs : List (Nat × Nat))

/-- The nodes of a document by number. -/
abbrev Graph := Array Node

/-- What has been read of a document. -/
structure Reading where
  stream : Stream
  /-- What the handles of tags stand for. -/
  handles : List (String × String)
  graph : Graph
  anchors : List (String × Nat)
  /-- The number of collections around. -/
  depth : Nat

abbrev Read := StateT Reading (Except Problem)

namespace Read

def refuse {α : Type} : Read α := throw .malformed

/-- The next token. -/
def peek : Read Token := do
  let s ← get
  let (t, stream) ← s.stream.next
  set { s with stream }
  return t

def drop : Read Unit := modify fun s => { s with stream := s.stream.drop }

/-- Takes a token if it comes next. -/
def accept (t : Token) : Read Bool := do
  if (← peek) = t then
    drop
    return true
  else return false

def require (t : Token) : Read Unit := do
  if ← accept t then return () else refuse

/-- Whether one of some tokens comes next. -/
def nextIn (ts : List Token) : Read Bool := return ts.contains (← peek)

/-- Reads what is in a collection. -/
def inside {α : Type} (x : Read α) : Read α := do
  if depthLimit ≤ (← get).depth then throw .tooDeep
  modify fun s => { s with depth := s.depth + 1 }
  let a ← x
  modify fun s => { s with depth := s.depth - 1 }
  return a

/-- A new node. -/
def newNode (n : Node) : Read Nat :=
  modifyGet fun s => (s.graph.size, { s with graph := s.graph.push n })

def setNode (i : Nat) (n : Node) : Read Unit :=
  modify fun s => { s with graph := s.graph.setIfInBounds i n }

/-- A text that is left out. -/
def emptyNode : Read Nat := newNode (.scalar .nothing "")

/-! ## Anchors and tags -/

/-- What stands in front of a node. -/
structure Properties where
  anchor : Option String
  tag : Option TagName

def acceptAnchor : Read (Option String) := do
  match ← peek with
  | .anchor name =>
    drop
    return some name
  | _ => return none

def acceptTag : Read (Option TagName) := do
  match ← peek with
  | .tag t =>
    drop
    return some t
  | _ => return none

/-- An anchor and a tag in either order. -/
def properties : Read Properties := do
  match ← acceptAnchor with
  | some name => return ⟨some name, ← acceptTag⟩
  | none =>
    match ← acceptTag with
    | some t => return ⟨← acceptAnchor, some t⟩
    | none => return ⟨none, none⟩

/-- The full form of a tag. -/
def fullTag (t : TagName) : Read String := do
  match t.handle with
  | none => return t.suffix
  | some h =>
    match (← get).handles.lookup h with
    | some target => return target ++ t.suffix
    | none => refuse

/-- The kind of a collection; a lone exclamation mark is no tag. -/
def collectionKind (usual : Kind) (tag : Option String) : Kind :=
  match tag with
  | none => usual
  | some t => if t = "!" then usual else .ofTag t

/-- The kind of a text. A lone exclamation mark has it read like a plain one. -/
def scalarKind (text : String) (plain : Bool) (tag : Option String) : Kind :=
  match tag with
  | none => if plain then meaning text else .text
  | some t => if t = "!" then meaning text else .ofTag t

/-- An anchor can be given only once. -/
def requireNew (anchor : Option String) : Read Unit := do
  match anchor with
  | some name => if ((← get).anchors.lookup name).isSome then refuse
  | none => return ()

/-- A new node with an anchor. -/
def anchored (anchor : Option String) (n : Node) : Read Nat := do
  requireNew anchor
  let i ← newNode n
  match anchor with
  | some name => modify fun s => { s with anchors := (name, i) :: s.anchors }
  | none => pure ()
  return i

def aliased (name : String) : Read Nat := do
  match (← get).anchors.lookup name with
  | some i => return i
  | none => refuse

/-! ## Nodes

A part that may be left out is followed by one of a few tokens. -/

/-- Tokens in front of which the part of a block mapping is left out. -/
def afterBlockPart : List Token := [.key, .value, .blockEnd]

mutual

/-- A node; block collections only in block context, and a sequence without
indentation of its own only as part of a mapping. -/
def node : Nat → (block indentless : Bool) → Read Nat
  | 0, _, _ => refuse
  | fuel + 1, block, indentless => do
    match ← peek with
    | .alias name =>
      drop
      aliased name
    | _ =>
      let p ← properties
      let tag ← match p.tag with
        | some t => some <$> fullTag t
        | none => pure none
      let sequenceKind := collectionKind .sequence tag
      let mappingKind := collectionKind .mapping tag
      let sequenceOf (items : Read (List Nat)) : Read Nat := do
        let i ← anchored p.anchor (.sequence sequenceKind [])
        setNode i (.sequence sequenceKind (← inside items))
        return i
      let mappingOf (pairs : Read (List (Nat × Nat))) : Read Nat := do
        let i ← anchored p.anchor (.mapping mappingKind [])
        setNode i (.mapping mappingKind (← inside pairs))
        return i
      match ← peek with
      | .blockEntry =>
        if indentless then sequenceOf (indentlessItems fuel)
        else absent p.anchor tag
      | .scalar text plain =>
        drop
        anchored p.anchor (.scalar (scalarKind text plain tag) text)
      | .flowSequence =>
        drop
        sequenceOf (flowItems fuel true)
      | .flowMapping =>
        drop
        mappingOf (flowPairs fuel true)
      | .blockSequence =>
        if block then
          drop
          sequenceOf (blockItems fuel)
        else absent p.anchor tag
      | .blockMapping =>
        if block then
          drop
          mappingOf (blockPairs fuel)
        else absent p.anchor tag
      | _ => absent p.anchor tag

/-- A node of which only the properties are there. -/
def absent (anchor tag : Option String) : Read Nat := do
  if anchor.isNone && tag.isNone then refuse
  else anchored anchor (.scalar (scalarKind "" (tag.isNone) tag) "")

/-- A node, or nothing in front of some tokens. -/
def nodeUnless : Nat → List Token → (block indentless : Bool) → Read Nat
  | 0, _, _, _ => refuse
  | fuel + 1, ts, block, indentless => do
    if ← nextIn ts then emptyNode else node fuel block indentless

/-- The items of a block sequence. -/
def blockItems : Nat → Read (List Nat)
  | 0 => refuse
  | fuel + 1 => do
    if ← accept .blockEntry then
      let i ← nodeUnless fuel [.blockEntry, .blockEnd] true false
      return i :: (← blockItems fuel)
    else
      require .blockEnd
      return []

/-- The items of a sequence at the indentation of its mapping. -/
def indentlessItems : Nat → Read (List Nat)
  | 0 => refuse
  | fuel + 1 => do
    if ← accept .blockEntry then
      let i ← nodeUnless fuel [.blockEntry, .key, .value, .blockEnd] true false
      return i :: (← indentlessItems fuel)
    else return []

/-- The pairs of a block mapping. -/
def blockPairs : Nat → Read (List (Nat × Nat))
  | 0 => refuse
  | fuel + 1 => do
    if ← accept .key then
      let k ← nodeUnless fuel afterBlockPart true true
      let v ← if ← accept .value then nodeUnless fuel afterBlockPart true true else emptyNode
      return (k, v) :: (← blockPairs fuel)
    else
      require .blockEnd
      return []

/-- The items of a flow sequence; a pair stands for a mapping with only that pair. -/
def flowItems : Nat → (first : Bool) → Read (List Nat)
  | 0, _ => refuse
  | fuel + 1, first => do
    if ← accept .flowSequenceEnd then return []
    else
      if !first then require .flowEntry
      if ← accept .key then
        let m ← newNode (.mapping .mapping [])
        let pair ← inside do
          let k ← nodeUnless fuel [.value, .flowEntry, .flowSequenceEnd] false false
          let v ← if ← accept .value then nodeUnless fuel [.flowEntry, .flowSequenceEnd] false false
            else emptyNode
          return (k, v)
        setNode m (.mapping .mapping [pair])
        return m :: (← flowItems fuel false)
      else if ← accept .flowSequenceEnd then return []
      else
        let i ← node fuel false false
        return i :: (← flowItems fuel false)

/-- The pairs of a flow mapping; a node alone is a key without a value. -/
def flowPairs : Nat → (first : Bool) → Read (List (Nat × Nat))
  | 0, _ => refuse
  | fuel + 1, first => do
    if ← accept .flowMappingEnd then return []
    else
      if !first then require .flowEntry
      if ← accept .key then
        let k ← nodeUnless fuel [.value, .flowEntry, .flowMappingEnd] false false
        let v ← if ← accept .value then nodeUnless fuel [.flowEntry, .flowMappingEnd] false false
          else emptyNode
        return (k, v) :: (← flowPairs fuel false)
      else if ← accept .flowMappingEnd then return []
      else
        let k ← node fuel false false
        let v ← emptyNode
        return (k, v) :: (← flowPairs fuel false)

end

/-! ## Documents -/

def usualHandles : List (String × String) := [("!", "!"), ("!!", standardTags)]

/-- The directives in front of a document. -/
def directives : Nat → (versioned : Bool) → List (String × String) → Read (List (String × String))
  | 0, _, _ => refuse
  | fuel + 1, versioned, handles => do
    match ← peek with
    | .directive d =>
      drop
      match d with
      | .version major => if versioned || major != 1 then refuse else directives fuel true handles
      | .handle name target =>
        if (handles.lookup name).isSome then refuse
        else directives fuel versioned ((name, target) :: handles)
      | .other => directives fuel versioned handles
    | _ => return handles

/-- The root of the only document, if there is one. -/
def document (fuel : Nat) : Read (Option Nat) := do
  let root ← match ← peek with
    | .streamEnd => pure none
    | .directive _ | .documentStart => do
      let handles ← directives fuel false []
      modify fun s => { s with handles := handles ++ usualHandles }
      require .documentStart
      match ← peek with
      | .directive _ | .documentStart | .documentEnd | .streamEnd => some <$> emptyNode
      | _ => some <$> node fuel true false
    | _ => some <$> node fuel true false
  endOfStream fuel
  return root
where
  /-- Marks of the end of the document, and then nothing. -/
  endOfStream : Nat → Read Unit
    | 0 => refuse
    | fuel + 1 => do
      if ← accept .documentEnd then endOfStream fuel
      else if (← peek) = .streamEnd then return ()
      else refuse

end Read

/-- The nodes of the document that a text spells, and its root. -/
def readGraph (text : String) : Except Problem (Option (Nat × Graph)) :=
  let cs := text.toList
  if !cs.all isAllowed then .error .malformed
  else do
    let (root, s) ← (Read.document (8 * cs.length + 16)).run ⟨.start cs, Read.usualHandles, #[], [], 0⟩
    return root.map fun i => (i, s.graph)

end LiterateConfig.Yaml
