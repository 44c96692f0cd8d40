import WorkloadIdentity.Yaml.Token

/-!
The tree of a YAML document: texts, sequences and mappings, with tags and anchors. An alias stands
for the node of its number. A file holds one document or none.

What may be missing (the value behind a colon, the item behind a hyphen, the document itself) is
an empty plain text.
-/

namespace WorkloadIdentity.Yaml

inductive Node where
  | alias (target : Nat)
  | scalar (tag : Option Bytes) (plain : Bool) (text : List Char)
  | sequence (tag : Option Bytes) (items : List Node)
  | mapping (tag : Option Bytes) (pairs : List (Node × Node))
deriving Inhabited

namespace Node

def empty : Node := .scalar none true []

end Node

/-- A node that has an anchor. Of two with the same number the one that begins later counts. -/
structure Anchored where
  target : Nat
  place : Nat
  node : Node

/-- Where the reading of nodes stands. -/
structure Assembly where
  tokens : List Token
  /-- The number that each name stands for. -/
  names : List (List Char × Nat)
  anchored : List Anchored
  /-- How many nodes and ends of collections have been read. -/
  events : Nat
  handles : List (List Char × Bytes)

/-- Reading nodes; it fails on tokens that make no document. -/
abbrev Assemble (α : Type) := StateT Assembly Option α

namespace Assemble

/-- The next token, which stays. -/
def peek : Assemble (Option Token) := return (← get).tokens.head?

def advance : Assemble Unit := modify fun a => { a with tokens := a.tokens.drop 1 }

/-- Whether the next token is one of these. -/
def isNext (tokens : List Token) : Assemble Bool := do
  return (← peek).any fun token => tokens.contains token

/-- Goes over a token that has to be there. -/
def expect (token : Token) : Assemble Unit := do
  if ← isNext [token] then advance else failure

def countEvent : Assemble Unit := modify fun a => { a with events := a.events + 1 }

def emptyNode : Assemble Node := do
  countEvent
  return .empty

/-! ### Properties -/

/-- The tag and the anchor in front of a node, in any order. -/
structure Properties where
  anchor : Option (List Char)
  tag : Option Bytes

def resolveTag (handle : List Char) (suffix : Bytes) : Assemble Bytes := do
  if handle.isEmpty then return suffix
  match (← get).handles.find? (·.1 == handle) with
  | some (_, beginning) => return beginning ++ suffix
  | none => failure

def readAnchor : Assemble (Option (List Char)) := do
  match ← peek with
  | some (.anchor name) =>
    advance
    return some name
  | _ => return none

def readTag : Assemble (Option Bytes) := do
  match ← peek with
  | some (.tag handle suffix) =>
    advance
    return some (← resolveTag handle suffix)
  | _ => return none

def properties : Assemble Properties := do
  match ← readAnchor with
  | some name => return { anchor := some name, tag := ← readTag }
  | none =>
    let tag ← readTag
    return { anchor := ← readAnchor, tag }

/-- Gives an anchor its number: as many names as there are so far. -/
def nameAnchor (anchor : Option (List Char)) : Assemble (Option (Nat × Nat)) := do
  match anchor with
  | none => return none
  | some name =>
    let a ← get
    let target := a.names.length
    set { a with names := (name, target) :: a.names.filter (·.1 != name) }
    return some (target, a.events)

/-- Begins a node: numbers its anchor and counts it. -/
def begin (p : Properties) : Assemble (Option (Nat × Nat)) := do
  let anchor ← nameAnchor p.anchor
  countEvent
  return anchor

/-- Ends a node. -/
def finish (anchor : Option (Nat × Nat)) (node : Node) : Assemble Node := do
  match anchor with
  | some (target, place) =>
    modify fun a => { a with anchored := ⟨target, place, node⟩ :: a.anchored }
  | none => pure ()
  return node

/-- A plain text with the tag `!` is as good as one without a tag. -/
def scalar (p : Properties) (plain : Bool) (text : List Char) : Assemble Node := do
  let anchor ← begin p
  let tag := if p.tag == some (Utf8.encode ['!']) then none else p.tag
  finish anchor (.scalar tag plain text)

/-! ### Nodes -/

/-- A node, or an empty one if one of the given tokens comes next. -/
def nodeUnless (ends : List Token) (node : Assemble Node) : Assemble Node := do
  if ← isNext ends then emptyNode else node

mutual

/-- A node. In a block it may be a block, and behind a key a sequence without indentation of its
own. -/
def node : (fuel : Nat) → (inBlock indentless : Bool) → Assemble Node
  | 0, _, _ => failure
  | fuel + 1, inBlock, indentless => do
    match ← peek with
    | some (.alias name) =>
      advance
      countEvent
      match (← get).names.find? (·.1 == name) with
      | some (_, target) => return .alias target
      | none => failure
    | _ =>
      let p ← properties
      let collection (read : Assemble Node) : Assemble Node := do
        let anchor ← begin p
        let node ← read
        countEvent
        finish anchor node
      match ← peek with
      | some .blockEntry =>
        if indentless then
          collection (return .sequence p.tag (← indentlessItems fuel))
        else bare p
      | some (.scalar plain text) =>
        advance
        scalar p plain text
      | some .flowSequenceStart =>
        advance
        collection (return .sequence p.tag (← flowItems fuel true))
      | some .flowMappingStart =>
        advance
        collection (return .mapping p.tag (← flowPairs fuel true))
      | some .blockSequenceStart =>
        if inBlock then
          advance
          collection (return .sequence p.tag (← blockItems fuel))
        else bare p
      | some .blockMappingStart =>
        if inBlock then
          advance
          collection (return .mapping p.tag (← blockPairs fuel))
        else bare p
      | _ => bare p

/-- A node that is nothing but its tag or anchor. -/
def bare (p : Properties) : Assemble Node := do
  if p.anchor.isSome || p.tag.isSome then
    let anchor ← begin p
    finish anchor (.scalar p.tag true [])
  else failure

/-- The items of a block up to its end. -/
def blockItems : (fuel : Nat) → Assemble (List Node)
  | 0 => failure
  | fuel + 1 => do
    if ← isNext [.blockEnd] then
      advance
      return []
    else
      expect .blockEntry
      let item ← nodeUnless [.blockEntry, .blockEnd] (node fuel true false)
      return item :: (← blockItems fuel)

/-- The items of a sequence that stands in the column of its key. -/
def indentlessItems : (fuel : Nat) → Assemble (List Node)
  | 0 => failure
  | fuel + 1 => do
    if ← isNext [.blockEntry] then
      advance
      let item ← nodeUnless [.blockEntry, .key, .value, .blockEnd] (node fuel true false)
      return item :: (← indentlessItems fuel)
    else return []

/-- The pairs of a block up to its end. -/
def blockPairs : (fuel : Nat) → Assemble (List (Node × Node))
  | 0 => failure
  | fuel + 1 => do
    if ← isNext [.blockEnd] then
      advance
      return []
    else
      expect .key
      let ends : List Token := [.key, .value, .blockEnd]
      let key ← nodeUnless ends (node fuel true true)
      let value ←
        if ← isNext [.value] then
          advance
          nodeUnless ends (node fuel true true)
        else emptyNode
      return (key, value) :: (← blockPairs fuel)

/-- The items between brackets. A pair may stand there without braces. -/
def flowItems : (fuel : Nat) → (first : Bool) → Assemble (List Node)
  | 0, _ => failure
  | fuel + 1, first => do
    if ← isNext [.flowSequenceEnd] then
      advance
      return []
    else
      if !first then expect .flowEntry
      if ← isNext [.key] then
        advance
        countEvent
        let ends : List Token := [.value, .flowEntry, .flowSequenceEnd]
        let key ←
          if ← isNext ends then
            advance
            emptyNode
          else node fuel false false
        let value ←
          if ← isNext [.value] then
            advance
            nodeUnless [.flowEntry, .flowSequenceEnd] (node fuel false false)
          else emptyNode
        countEvent
        return .mapping none [(key, value)] :: (← flowItems fuel false)
      else if ← isNext [.flowSequenceEnd] then
        advance
        return []
      else
        let item ← node fuel false false
        return item :: (← flowItems fuel false)

/-- The pairs between braces. What has no colon is a key without a value. -/
def flowPairs : (fuel : Nat) → (first : Bool) → Assemble (List (Node × Node))
  | 0, _ => failure
  | fuel + 1, first => do
    if ← isNext [.flowMappingEnd] then
      advance
      return []
    else
      if !first then expect .flowEntry
      if ← isNext [.key] then
        advance
        let ends : List Token := [.value, .flowEntry, .flowMappingEnd]
        let key ← nodeUnless ends (node fuel false false)
        let value ←
          if ← isNext [.value] then
            advance
            nodeUnless [.flowEntry, .flowMappingEnd] (node fuel false false)
          else emptyNode
        return (key, value) :: (← flowPairs fuel false)
      else if ← isNext [.flowMappingEnd] then
        advance
        return []
      else
        let key ← node fuel false false
        let value ← emptyNode
        return (key, value) :: (← flowPairs fuel false)

end

/-! ### Documents -/

/-- The directives in front of a document: versions before 1.3, and handles, each at most once. -/
def directives : (fuel : Nat) → (hasVersion : Bool) → Assemble Unit
  | 0, _ => failure
  | fuel + 1, hasVersion => do
    match ← peek with
    | some (.version major minor) =>
      if hasVersion || major ≠ 1 || (minor ≠ 1 && minor ≠ 2) then failure
      advance
      directives fuel true
    | some (.tagHandle handle beginning) =>
      if (← get).handles.any (·.1 == handle) then failure
      advance
      modify fun a => { a with handles := a.handles ++ [(handle, beginning)] }
      directives fuel hasVersion
    | _ => pure ()

/-- The handles that stand for something without a directive. -/
def defaultHandles : List (List Char × Bytes) :=
  [(['!'], Utf8.encode ['!']), (['!', '!'], Utf8.encode "tag:yaml.org,2002:".toList)]

/-- What begins another document or ends the file. -/
def isOutside : Token → Bool
  | .version .. | .tagHandle .. | .documentStart | .documentEnd => true
  | _ => false

/-- The document of a file, if there is one. -/
def document (fuel : Nat) : Assemble (Option Node) := do
  match ← peek with
  | none => return none
  | some token =>
    let explicit := isOutside token && token != .documentEnd
    if explicit then
      directives fuel false
      expect .documentStart
    modify fun a => { a with handles := a.handles ++ defaultHandles }
    let root ←
      match ← peek with
      | none => emptyNode
      | some token =>
        if explicit && isOutside token then emptyNode else node fuel true false
    modify fun a => { a with tokens := a.tokens.dropWhile (· == .documentEnd) }
    match ← peek with
    | none => return some root
    | some _ => failure

end Assemble

/-- A document with what its aliases stand for. -/
structure Document where
  root : Option Node
  anchored : List Anchored
  events : Nat

/-- The document that tokens make up. -/
def Document.ofTokens? (tokens : List Token) : Option Document := do
  let (root, a) ← (Assemble.document (4 * tokens.length + 8)).run ⟨tokens, [], [], 0, []⟩
  return { root, anchored := a.anchored, events := a.events }

/-- The node that an alias stands for. -/
def Document.target? (d : Document) (target : Nat) : Option Node :=
  let found := d.anchored.filter (·.target == target)
  (found.foldl (fun (best : Option Anchored) a =>
    match best with
    | some b => if b.place < a.place then some a else some b
    | none => some a) none).map (·.node)

end WorkloadIdentity.Yaml
