import Cadence.OrderedMap
import Cadence.Yaml.Token

/-!
# Nodes

The tree that the tokens of a document write: scalars, sequences and mappings. An alias names the
node that an anchor before it marks by a number, under which `Document.resolve?` finds it.
-/

namespace Cadence.Yaml

/-- A node of a document. -/
inductive Node where
  | scalar (style : ScalarStyle) (tag : Option Tag) (text : String)
  | sequence (tag : Option Tag) (items : List Node)
  | mapping (tag : Option Tag) (entries : List (Node × Node))
  | alias (anchor : Nat)
  deriving Repr, Inhabited

/-- A document: its root, and the nodes that anchors mark with their numbers, from the last anchor
to the first. -/
structure Document where
  root : Node
  anchored : List (Nat × Node) := []
  deriving Repr, Inhabited

namespace Node

/-- A node that is left out. -/
def empty : Node := .scalar .plain none ""

end Node

namespace Document

/-- The node that a node stands for; of several anchors with one number the last one counts. -/
def resolve? (d : Document) : Node → Option Node
  | .alias n => OrderedMap.find? n d.anchored
  | node => some node

end Document

/-- An anchor: its place among all of them, and its number. -/
structure Anchor where
  place : Nat
  number : Nat

/-- What is left of the tokens, why no more come, the handles of tags, the numbers of the names of
anchors from the latest on, how many different names there are, and the nodes that anchors mark. -/
structure Reader where
  tokens : List Token
  fault : Option Fault := none
  handles : List (List Char × Tag) := []
  names : List (List Char × Nat) := []
  distinctNames : Nat := 0
  marked : List (Anchor × Node) := []

/-- Reading that goes through the tokens and may fail. -/
abbrev Read : Type → Type := StateT Reader Reading

namespace Read

/-- No node comes of these tokens. -/
def misfit {α : Type} : Read α := throw .malformed

/-- The next token, unless the document ends. Where the tokens stop short of that, so does reading.
-/
def peek : Read (Option Token) := fun r =>
  match r.tokens, r.fault with
  | t :: _, _ => .ok (some t, r)
  | [], some f => .error f
  | [], none => .ok (none, r)

/-- Leave out the next token. -/
def skip : Read Unit := fun r => .ok ((), { r with tokens := r.tokens.tail })

/-- Whether the next token is one of some. -/
def nextIn (ts : List Token) : Read Bool := do return (← peek).any (· ∈ ts)

/-- Leave out the next token, which has to be the given one. -/
def expect (t : Token) : Read Unit := do
  if ← nextIn [t] then skip else misfit

/-! ## Properties -/

/-- An anchor, if one comes next. -/
def anchorName : Read (Option (List Char)) := do
  match ← peek with
  | some (.anchor name) => skip; return some name
  | _ => return none

/-- A tag, if one comes next. -/
def tagText : Read (Option TagText) := do
  match ← peek with
  | some (.tag t) => skip; return some t
  | _ => return none

/-- An anchor and a tag in either order, as far as they come next. -/
def properties : Read (Option (List Char) × Option TagText) := do
  match ← anchorName with
  | some name => return (some name, ← tagText)
  | none =>
    match ← tagText with
    | some t => return (← anchorName, some t)
    | none => return (none, none)

/-- A tag in full, its handle replaced. -/
def fullTag (t : TagText) : Read Tag := fun r =>
  if t.handle.isEmpty then .ok (t.suffix, r)
  else
    match OrderedMap.find? t.handle r.handles with
    | some replacement => .ok (replacement ++ t.suffix, r)
    | none => .error .malformed

/-- Give an anchor its number, which is that of the different names before it. So a name that comes
again shares its new number with the next new name. -/
def declare (name : List Char) : Read Anchor := fun r =>
  let isKnown := (OrderedMap.find? name r.names).isSome
  .ok (⟨r.names.length, r.distinctNames⟩,
    { r with
      names := (name, r.distinctNames) :: r.names
      distinctNames := if isKnown then r.distinctNames else r.distinctNames + 1 })

/-- Keep the node that an anchor marks. -/
def mark (anchor : Anchor) (node : Node) : Read Unit := fun r =>
  .ok ((), { r with marked := (anchor, node) :: r.marked })

/-- The marked nodes by the numbers of their anchors, from the last anchor to the first. -/
def anchored : Read (List (Nat × Node)) := fun r =>
  let latestFirst := r.marked.mergeSort fun a b => b.1.place ≤ a.1.place
  .ok (latestFirst.map fun e => (e.1.number, e.2), r)

/-- The number of the anchor that an alias names. -/
def anchorOf (name : List Char) : Read Nat := fun r =>
  match OrderedMap.find? name r.names with
  | some n => .ok (n, r)
  | none => .error .malformed

/-! ## Nodes -/

mutual

/-- A node; block collections, and items without indentation of their own, may be allowed or not. -/
def node : Nat → Bool → Bool → Read Node
  | 0, _, _ => misfit
  | fuel + 1, block, indentless => do
    if let some (.alias name) ← peek then
      skip
      return .alias (← anchorOf name)
    else
      let (name, tag) ← properties
      let tag ← tag.mapM fullTag
      match name with
      | some name =>
        let anchor ← declare name
        let node ← content fuel block indentless true tag
        mark anchor node
        return node
      | none => content fuel block indentless tag.isSome tag

/-- What comes behind the properties of a node; if there are any it may be left out. -/
def content : Nat → Bool → Bool → Bool → Option Tag → Read Node
  | 0, _, _, _, _ => misfit
  | fuel + 1, block, indentless, hasProperties, tag => do
    match ← peek, indentless, block with
    | some .blockEntry, true, _ => return .sequence tag (← indentlessItems fuel)
    | some (.scalar style text), _, _ =>
      skip
      return .scalar style tag (String.ofList text)
    | some .flowSequenceStart, _, _ => skip; return .sequence tag (← flowItems fuel true)
    | some .flowMappingStart, _, _ => skip; return .mapping tag (← flowEntries fuel true)
    | some .blockSequenceStart, _, true => skip; return .sequence tag (← blockItems fuel)
    | some .blockMappingStart, _, true => skip; return .mapping tag (← blockEntries fuel)
    | _, _, _ => if hasProperties then return .scalar .plain tag "" else misfit

/-- A node, left out if one of some tokens comes next. -/
def nodeUnless : Nat → List Token → Bool → Bool → Read Node
  | 0, _, _, _ => misfit
  | fuel + 1, ts, block, indentless => do
    if ← nextIn ts then return .empty else node fuel block indentless

/-- The items of a block sequence up to its end. -/
def blockItems : Nat → Read (List Node)
  | 0 => misfit
  | fuel + 1 => do
    match ← peek with
    | some .blockEntry =>
      skip
      let item ← nodeUnless fuel [.blockEntry, .blockEnd] true false
      return item :: (← blockItems fuel)
    | some .blockEnd => skip; return []
    | _ => misfit

/-- The items of a sequence that stands in a mapping without indentation of its own. -/
def indentlessItems : Nat → Read (List Node)
  | 0 => misfit
  | fuel + 1 => do
    if ← nextIn [.blockEntry] then
      skip
      let item ← nodeUnless fuel [.blockEntry, .key, .value, .blockEnd] true false
      return item :: (← indentlessItems fuel)
    else return []

/-- The entries of a block mapping up to its end. -/
def blockEntries : Nat → Read (List (Node × Node))
  | 0 => misfit
  | fuel + 1 => do
    match ← peek with
    | some .key =>
      skip
      let key ← nodeUnless fuel [.key, .value, .blockEnd] true true
      let value ← valueUnless fuel [.key, .value, .blockEnd] true true
      return (key, value) :: (← blockEntries fuel)
    | some .blockEnd => skip; return []
    | _ => misfit

/-- A value behind its indicator, left out if that or one of some tokens comes next. -/
def valueUnless : Nat → List Token → Bool → Bool → Read Node
  | 0, _, _, _ => misfit
  | fuel + 1, ts, block, indentless => do
    if ← nextIn [.value] then
      skip
      nodeUnless fuel ts block indentless
    else return .empty

/-- The items of a sequence in brackets up to its end. -/
def flowItems : Nat → Bool → Read (List Node)
  | 0, _ => misfit
  | fuel + 1, first => do
    if ← nextIn [.flowSequenceEnd] then
      skip
      return []
    else
      if !first then expect .flowEntry
      match ← peek with
      | some .flowSequenceEnd => skip; return []
      | some .key =>
        skip
        let pair ← flowPair fuel
        return pair :: (← flowItems fuel false)
      | _ =>
        let item ← node fuel false false
        return item :: (← flowItems fuel false)

/-- A single entry that stands for a mapping in a sequence in brackets. A key that is left out takes
the token behind its indicator with it. -/
def flowPair : Nat → Read Node
  | 0 => misfit
  | fuel + 1 => do
    let key ←
      if ← nextIn [.value, .flowEntry, .flowSequenceEnd] then do
        skip
        pure Node.empty
      else node fuel false false
    let value ← valueUnless fuel [.flowEntry, .flowSequenceEnd] false false
    return .mapping none [(key, value)]

/-- The entries of a mapping in braces up to its end. -/
def flowEntries : Nat → Bool → Read (List (Node × Node))
  | 0, _ => misfit
  | fuel + 1, first => do
    if ← nextIn [.flowMappingEnd] then
      skip
      return []
    else
      if !first then expect .flowEntry
      match ← peek with
      | some .flowMappingEnd => skip; return []
      | some .key =>
        skip
        let key ← nodeUnless fuel [.value, .flowEntry, .flowMappingEnd] false false
        let value ← valueUnless fuel [.flowEntry, .flowMappingEnd] false false
        return (key, value) :: (← flowEntries fuel false)
      | _ =>
        let key ← node fuel false false
        return (key, .empty) :: (← flowEntries fuel false)

end

/-! ## Documents -/

/-- The handles that need no directive. -/
def commonHandles : List (List Char × Tag) :=
  [(['!'], asciiBytes ['!']), (['!', '!'], asciiBytes "tag:yaml.org,2002:".toList)]

/-- Directives up to the start of their document; none may come twice. -/
def directives : Nat → Bool → List (List Char × Tag) → Read (List (List Char × Tag))
  | 0, _, _ => misfit
  | fuel + 1, versioned, handles => do
    match ← peek with
    | some (.directive (.version major minor)) =>
      skip
      if versioned ∨ major ≠ 1 ∨ (minor ≠ 1 ∧ minor ≠ 2) then misfit
      else directives fuel true handles
    | some (.directive (.tag handle replacement)) =>
      skip
      if (OrderedMap.find? handle handles).isSome then misfit
      else directives fuel versioned ((handle, replacement) :: handles)
    | _ => return handles

/-- Whether the next token starts a document with its own mark, or a directive for it. -/
def startsExplicitly : Read Bool := do
  match ← peek with
  | some (.directive _) => return true
  | some .documentStart => return true
  | _ => return false

/-- Whether a document ends here. -/
def endsDocument : Read Bool := do
  match ← peek with
  | none => return true
  | some (.directive _) => return true
  | some .documentStart => return true
  | some .documentEnd => return true
  | _ => return false

/-- Use the given handles of tags before the common ones. -/
def useHandles (handles : List (List Char × Tag)) : Read Unit := fun r =>
  .ok ((), { r with handles := handles ++ commonHandles })

/-- Leave out marks of the end of a document. -/
def skipEnds : Read Unit := fun r =>
  .ok ((), { r with tokens := r.tokens.dropWhile fun t => t == .documentEnd })

/-- The root of a document. -/
def root (fuel : Nat) : Read Node := do
  if ← startsExplicitly then
    useHandles (← directives fuel false [])
    expect .documentStart
    if ← endsDocument then return .empty else node fuel true false
  else
    useHandles []
    node fuel true false

/-- A document with its anchors. -/
def document (fuel : Nat) : Read Document := do
  let root ← root fuel
  return { root := root, anchored := ← anchored }

/-- Make sure that no document follows. One that does is read before it is refused. -/
def nothingMore (fuel : Nat) : Read Unit := do
  skipEnds
  if (← peek).isSome then
    let _ ← root fuel
    misfit

end Read

/-- A document, and whether it is the only one. -/
structure Stream where
  first : Document
  rest : Reading Unit

namespace Stream

/-- Read the documents that some tokens write. No token at all is an empty document. -/
def ofTokens (ts : Tokens) : Reading Stream := do
  let fuel := 4 * ts.all.length + 8
  let reader : Reader := { tokens := ts.all, fault := ts.fault }
  if ts.all.isEmpty ∧ ts.fault.isNone then return ⟨{ root := .empty }, .ok ()⟩
  else
    let (first, reader) ← (Read.document fuel).run reader
    return ⟨first, (Read.nothingMore fuel).run' reader⟩

/-- Read the documents that a text holds. -/
def ofText (cs : List Char) : Reading Stream := ofTokens (.ofText cs)

end Stream

end Cadence.Yaml
