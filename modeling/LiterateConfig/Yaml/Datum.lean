import LiterateConfig.Yaml.Binary
import LiterateConfig.Yaml.Moment
import LiterateConfig.Yaml.Node
import LiterateConfig.Yaml.Number

/-!
# The data of a document

Nodes become data: texts what their kind says, collections their contents. A
collection is a datum by its node, because it may hold itself; its contents are
worked out when all collections seen before it are.

The pairs of a mapping may be preceded by those of others that it takes over, so
that its own come last and count.
-/
namespace LiterateConfig.Yaml

inductive Datum where
  | nothing
  | bool (b : Bool)
  | int (n : Int)
  | float (x : Float)
  | text (s : String)
  | bytes (b : List UInt8)
  | moment (m : Moment)
  /-- A collection, by its node. -/
  | collection (node : Nat)

/-- What a collection holds. -/
inductive Content where
  | list (items : List Datum)
  | record (pairs : List (Datum × Datum))
  | set
  /-- A list of pairs. -/
  | pairs

/-- Data in the making. -/
structure Making where
  graph : Graph
  /-- The data of nodes that have been seen. -/
  known : List (Nat × Datum)
  /-- Collections whose contents have not been worked out, first come first. -/
  waiting : List Nat
  contents : List (Nat × Content)

abbrev Make := StateT Making (Except Problem)

namespace Make

def refuse {α : Type} (p : Problem := .malformed) : Make α := throw p

def ofExcept {α : Type} : Except Problem α → Make α
  | .ok a => return a
  | .error p => throw p

def nodeAt (i : Nat) : Make Node := do
  match (← get).graph[i]? with
  | some n => return n
  | none => refuse

def kindAt (g : Graph) (i : Nat) : Kind :=
  match g[i]? with
  | some (.scalar k _) | some (.sequence k _) | some (.mapping k _) => k
  | none => .unknown

/-! ## Texts -/

/-- The text of a node; a mapping with a value key has that of its value. -/
def textAt : Nat → Nat → Make String
  | 0, _ => refuse .tooDeep
  | fuel + 1, i => do
    match ← nodeAt i with
    | .scalar _ text => return text
    | .sequence .. => refuse
    | .mapping _ pairs =>
      let g := (← get).graph
      match pairs.find? fun p => kindAt g p.1 == .value with
      | some p => textAt fuel p.2
      | none => refuse

/-- The truth value that a word names, in small letters. -/
def truth? (word : String) : Option Bool :=
  if word ∈ ["yes", "true", "on"] then some true
  else if word ∈ ["no", "false", "off"] then some false
  else none

/-- The datum of a text by its kind; kinds of collections have none. -/
def ofText (kind : Kind) (text : String) : Except Problem Datum :=
  match kind with
  | .nothing => .ok .nothing
  | .truth =>
    let word := Text.lower text
    match truth? word with
    | some b => .ok (.bool b)
    | none => .error (.badTruth word)
  | .int => (readInt text).map .int
  | .float => (readFloat text).map .float
  | .text => .ok (.text text)
  | .binary => (readBinary text).map .bytes
  | .moment => (readMoment text).map .moment
  | _ => .error .malformed

/-- The datum of a node; the contents of a collection come later. -/
def datum (i : Nat) : Make Datum := do
  let s ← get
  match s.known.lookup i with
  | some d => return d
  | none =>
    let kind := kindAt s.graph i
    match kind with
    | .sequence | .mapping | .set | .pairs =>
      modify fun s => { s with
        known := (i, .collection i) :: s.known
        waiting := s.waiting ++ [i] }
      return .collection i
    | .merge | .value | .unknown => refuse
    | kind =>
      let text ← textAt chainLimit i
      let d ← ofExcept (ofText kind text)
      modify fun s => { s with known := (i, d) :: s.known }
      return d

/-! ## Taking over pairs -/

def setPairs (i : Nat) (pairs : List (Nat × Nat)) : Make Unit :=
  modify fun s => match s.graph[i]? with
    | some (.mapping k _) => { s with graph := s.graph.setIfInBounds i (.mapping k pairs) }
    | _ => s

/-- A value key counts as a text from now on. -/
def asText (i : Nat) : Make Unit :=
  modify fun s => match s.graph[i]? with
    | some (.scalar _ text) => { s with graph := s.graph.setIfInBounds i (.scalar .text text) }
    | some (.sequence _ items) => { s with graph := s.graph.setIfInBounds i (.sequence .text items) }
    | some (.mapping _ pairs) => { s with graph := s.graph.setIfInBounds i (.mapping .text pairs) }
    | none => s

def pairsAt (i : Nat) : Make (List (Nat × Nat)) := do
  match ← nodeAt i with
  | .mapping _ pairs => return pairs
  | _ => refuse

mutual

/-- Puts the pairs that a mapping takes over in front of its own; `depth` mappings
wait for it. -/
def flatten : Nat → (depth : Nat) → Nat → Make Unit
  | 0, _, _ => refuse
  | fuel + 1, depth, i => do
    if chainLimit ≤ depth then refuse .tooDeep
    let (taken, own) ← sortPairs fuel depth i [] [] (← pairsAt i)
    setPairs i (taken ++ own)

/-- The pairs taken over and those of the mapping itself. -/
def sortPairs : Nat → (depth : Nat) → Nat → List (Nat × Nat) → List (Nat × Nat) →
    List (Nat × Nat) → Make (List (Nat × Nat) × List (Nat × Nat))
  | 0, _, _, _, _, _ => refuse
  | _ + 1, _, _, taken, own, [] => return (taken, own)
  | fuel + 1, depth, i, taken, own, (k, v) :: rest => do
    match kindAt (← get).graph k with
    | .merge =>
      setPairs i (own ++ rest)
      match ← nodeAt v with
      | .mapping .. =>
        flatten fuel (depth + 1) v
        sortPairs fuel depth i (taken ++ (← pairsAt v)) own rest
      | .sequence _ items =>
        let more ← flattenEach fuel (depth + 1) items
        sortPairs fuel depth i (taken ++ more.reverse.flatten) own rest
      | .scalar .. => refuse
    | .value =>
      asText k
      sortPairs fuel depth i taken (own ++ [(k, v)]) rest
    | _ => sortPairs fuel depth i taken (own ++ [(k, v)]) rest

/-- The pairs of each of several mappings. -/
def flattenEach : Nat → (depth : Nat) → List Nat → Make (List (List (Nat × Nat)))
  | 0, _, _ => refuse
  | _ + 1, _, [] => return []
  | fuel + 1, depth, i :: rest => do
    let _ ← pairsAt i
    flatten fuel depth i
    let pairs ← pairsAt i
    return pairs :: (← flattenEach fuel depth rest)

end

/-! ## Collections -/

def datums : List Nat → Make (List Datum)
  | [] => return []
  | i :: rest => return (← datum i) :: (← datums rest)

/-- Whether a datum can be a key. -/
def canBeKey : Datum → Bool
  | .collection _ => false
  | _ => true

def pairData : List (Nat × Nat) → Make (List (Datum × Datum))
  | [] => return []
  | (k, v) :: rest => do
    let key ← datum k
    if !canBeKey key then refuse
    let value ← datum v
    return (key, value) :: (← pairData rest)

/-- The pairs of a mapping with those it takes over. -/
def recordAt (i : Nat) : Make (List (Datum × Datum)) := do
  let g := (← get).graph
  let size := g.foldl (fun n node => n + match node with
    | .mapping _ pairs => pairs.length + 1
    | .sequence _ items => items.length + 1
    | .scalar .. => 1) 0
  flatten ((size + 2) * (size + 2)) 0 i
  pairData (← pairsAt i)

/-- The pairs of a sequence of mappings with one pair each. -/
def singlePairs : List Nat → Make Unit
  | [] => return ()
  | i :: rest => do
    match ← pairsAt i with
    | [(k, v)] =>
      let _ ← datum k
      let _ ← datum v
      singlePairs rest
    | _ => refuse

/-- The contents of a collection. -/
def content (i : Nat) : Make Content := do
  match kindAt (← get).graph i, ← nodeAt i with
  | .sequence, .sequence _ items => .list <$> datums items
  | .mapping, .mapping .. => .record <$> recordAt i
  | .set, .mapping .. => do
    let _ ← recordAt i
    return .set
  | .pairs, .sequence _ items => do
    singlePairs items
    return .pairs
  | _, _ => refuse

/-- Works out the contents of all collections; each is worked out once. -/
def finish : Nat → Make Unit
  | 0 => return ()
  | fuel + 1 => do
    match (← get).waiting with
    | [] => return ()
    | i :: rest =>
      modify fun s => { s with waiting := rest }
      let c ← content i
      modify fun s => { s with contents := (i, c) :: s.contents }
      finish fuel

end Make

/-- The data of a document. -/
structure Document where
  root : Datum
  contents : List (Nat × Content)

namespace Document

def empty : Document := ⟨.nothing, []⟩

/-- What a datum holds, if it is a collection. -/
def content? (d : Document) : Datum → Option Content
  | .collection i => d.contents.lookup i
  | _ => none

/-- The datum of a key; of pairs with one key the last counts. -/
def lastValue? (key : String) : List (Datum × Datum) → Option Datum
  | [] => none
  | (k, v) :: rest =>
    match lastValue? key rest with
    | some w => some w
    | none => match k with
      | .text s => if s = key then some v else none
      | _ => none

end Document

/-- The data that a text spells. -/
def read (text : String) : Except Problem Document := do
  match ← readGraph text with
  | none => return .empty
  | some (root, graph) =>
    let make : Make Datum := do
      let d ← Make.datum root
      Make.finish (graph.size + 1)
      return d
    let (d, s) ← make.run ⟨graph, [], [], []⟩
    return ⟨d, s.contents⟩

end LiterateConfig.Yaml
