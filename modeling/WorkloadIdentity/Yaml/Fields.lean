import WorkloadIdentity.Yaml.Node
import WorkloadIdentity.Yaml.Plain

/-!
A YAML document as named values. Its root is a mapping, or nothing at all. Keys are texts however
they are spelled, and of two equal ones the later counts. A tag of one's own makes a record of a
node, with the tag for a name; the tags of the core schema say how a text is to be read.

Collections nest no deeper than `maxDepth`, and aliases are followed no more than `maxRepeats`
times for each node, so a document cannot unfold into something much larger than itself.
-/

namespace WorkloadIdentity.Yaml

def maxDepth : Nat := 128

def maxRepeats : Nat := 100

/-- Why a text gives no named values. -/
inductive Fault where
  /-- It is no YAML, or holds more than one document. -/
  | spelling
  /-- Its root is no mapping. -/
  | root
  /-- A key is a collection. -/
  | key
  /-- A text is not what its tag says. -/
  | tag
  /-- Collections are nested too deep. -/
  | depth
  /-- Aliases are followed too often. -/
  | repetition
deriving DecidableEq, Repr

def Fault.message : Fault → String
  | .spelling => "not a single YAML document"
  | .root => "invalid type: expected a map"
  | .key => "invalid type: expected a string"
  | .tag => "invalid value for tag"
  | .depth => "recursion limit exceeded"
  | .repetition => "repetition limit exceeded"

/-- Counts the aliases that have been followed. -/
abbrev Unfold (α : Type) := StateT Nat (Except Fault) α

/-- Follows an alias; other nodes are left as they are. -/
def Document.follow (d : Document) (node : Node) : Unfold Node := do
  match node with
  | .alias target =>
    let count := (← get) + 1
    set count
    if d.events * maxRepeats < count then throw .repetition
    match d.target? target with
    | some node => return node
    | none => throw .spelling
  | node => return node

/-- The name that a tag of one's own gives. -/
def ownTag? (tag : Option Bytes) : Option String :=
  match tag with
  | some (0x21 :: rest) => Utf8.toString? (if rest.isEmpty then [0x21] else rest)
  | _ => none

/-- A tag of the core schema. -/
def coreTag (name : String) : Bytes := Utf8.ofString ("tag:yaml.org,2002:" ++ name)

/-- The value of a text under a tag of the core schema, or under one that says nothing of it. -/
def taggedValue (tag : Bytes) (plain : Bool) (text : List Char) : Except Fault Value :=
  let orFault (value : Option Value) : Except Fault Value :=
    match value with
    | some value => .ok value
    | none => .error .tag
  if tag = coreTag "bool" then orFault ((bool? text).map .bool)
  else if tag = coreTag "int" then orFault (integer? text)
  else if tag = coreTag "float" then orFault ((float? text).map .float)
  else if tag = coreTag "null" then orFault (if isNull text then some .null else none)
  else if tag.head? == some 0x21 && plain then .ok (plainValue text)
  else .ok (.text (String.ofList text))

/-- The value of a text without a tag. -/
def untaggedValue (plain : Bool) (text : List Char) : Value :=
  if plain then plainValue text else .text (String.ofList text)

/-- A key as a text. -/
def Document.key (d : Document) (node : Node) : Unfold String := do
  match ← d.follow node with
  | .scalar _ _ text => return String.ofList text
  | _ => throw .key

/-- The value of a text with or without a tag. -/
def scalarValue (tag : Option Bytes) (plain : Bool) (text : List Char) : Except Fault Value :=
  match ownTag? tag, tag with
  | some name, _ => .ok (.record [(name, untaggedValue plain text)])
  | none, some tag => taggedValue tag plain text
  | none, none => .ok (untaggedValue plain text)

/-- Puts a collection under the name of its tag, if that is one of its own. -/
def underTag (tag : Option Bytes) (value : Value) : Value :=
  match ownTag? tag with
  | some name => .record [(name, value)]
  | none => value

/-- The value of a node in which collections nest at most `depth` levels. -/
def Document.value (d : Document) : (depth : Nat) → Node → Unfold Value
  | 0, node => do
    match ← d.follow node with
    | .scalar tag plain text => scalarValue tag plain text
    | _ => throw .depth
  | depth + 1, node => do
    match ← d.follow node with
    | .scalar tag plain text => scalarValue tag plain text
    | .sequence tag items => return underTag tag (.list (← items.mapM (value d depth)))
    | .mapping tag pairs =>
      let fields ← pairs.mapM fun (key, item) => do return ((← d.key key), (← value d depth item))
      return underTag tag (.record (Fields.ofList fields))
    | .alias _ => throw .spelling

/-- The named values of a document. -/
def Document.fields (d : Document) : Except Fault Fields :=
  match d.root with
  | none => .ok []
  | some (.scalar _ true []) => .ok []
  | some (.mapping _ pairs) =>
    let read : Unfold (List (String × Value)) := pairs.mapM fun (key, item) => do
      return ((← d.key key), (← d.value (maxDepth - 1) item))
    (read.run' 0).map Fields.ofList
  | some _ => .error .root

/-- The named values that a text spells. -/
def fields (text : List Char) : Except Fault Fields :=
  match tokens? text >>= Document.ofTokens? with
  | some d => d.fields
  | none => .error .spelling

end WorkloadIdentity.Yaml
