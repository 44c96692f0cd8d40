import WorkloadIdentity.Fault
import WorkloadIdentity.Program
import WorkloadIdentity.Text.Segments

/-!
A file system as far as tokens and certificates need one: directories, and files with content and
mode. A name leads to a file object, and an object outlives its name, so a handle that was opened
before a file is removed still shows what becomes of its content.

`FileCall` lists the calls that programs make, at the grain of what can fail or be seen in
between; `FileSystem.answer` is what they do.
-/

namespace WorkloadIdentity

/-! ### Paths -/

namespace Path

/-- The names of a path; those that are empty do not count. -/
def names (path : Path) : List String :=
  ((Text.splitOn '/' path.toList).filter (!·.isEmpty)).map String.ofList

def isAbsolute (path : Path) : Bool := path.toList.head? == some '/'

/-- A path that ends in a slash asks for a directory. -/
def asksDirectory (path : Path) : Bool := path.toList.getLast? == some '/'

/-- The names of a path without those that stay where they are; a first one of a relative path is
kept. -/
def steps (path : Path) : List String :=
  match isAbsolute path, names path with
  | false, "." :: rest => "." :: rest.filter (· ≠ ".")
  | _, names => names.filter (· ≠ ".")

/-- The path of the directory that a path lies in; empty for a lone name. -/
def parent? (path : Path) : Option Path :=
  match steps path with
  | [] => none
  | steps =>
    let above := "/".intercalate steps.dropLast
    some (if isAbsolute path then "/" ++ above else above)

end Path

/-! ### Files -/

/-- A file's content and its permissions. -/
structure FileObject where
  content : Bytes
  mode : Nat
deriving DecidableEq, Repr

/-- The permissions of a file that only its owner reads and writes. -/
def ownerOnly : Nat := 0o600

/-- What a name leads to: a directory, or a file object by its number. -/
inductive Node where
  | directory
  | file (object : Nat)
deriving DecidableEq, Repr

/-- A place in the tree, as names from the working directory or from the root. -/
structure Place where
  absolute : Bool
  names : List String
deriving DecidableEq, Repr

namespace Place

/-- The place that a name leads to. Above the root is the root; above the working directory the
names of the places are not known, but they are directories. -/
def child (place : Place) (name : String) : Place :=
  if name = "." then place
  else if name = ".." then
    if place.names.all (· == "..") then
      if place.absolute then place else { place with names := place.names ++ [".."] }
    else { place with names := place.names.dropLast }
  else { place with names := place.names ++ [name] }

end Place

/-- Names with what they lead to, and the objects by number. -/
structure FileSystem where
  entries : List (Place × Node)
  objects : List FileObject
deriving Repr

namespace FileSystem

def empty : FileSystem := ⟨[], []⟩

/-- What is at a place. The working directory, the root and what lies above them are
directories. -/
def node? (fs : FileSystem) (place : Place) : Option Node :=
  if place.names.all (· == "..") then some .directory
  else (fs.entries.find? (·.1 == place)).map (·.2)

def object? (fs : FileSystem) (object : Nat) : Option FileObject := fs.objects[object]?

/-- Gives a place a new node, or none. -/
def setNode (fs : FileSystem) (place : Place) (node : Option Node) : FileSystem :=
  let others := fs.entries.filter (·.1 != place)
  { fs with entries := (node.map fun n => (place, n)).toList ++ others }

def setObject (fs : FileSystem) (object : Nat) (file : FileObject) : FileSystem :=
  { fs with objects := fs.objects.set object file }

/-- The longest name and the longest path, in bytes. -/
def maxName : Nat := 255
def maxPath : Nat := 4095

/-- Follows names from a place. Every name but the last has to lead to a directory. -/
def walk (fs : FileSystem) (place : Place) : List String → Except SystemFault (Place × Option Node)
  | [] => .ok (place, some .directory)
  | [name] =>
    if maxName < name.utf8ByteSize then .error .nameTooLong
    else .ok (place.child name, fs.node? (place.child name))
  | name :: rest =>
    if maxName < name.utf8ByteSize then .error .nameTooLong
    else
      match fs.node? (place.child name) with
      | none => .error .noEntry
      | some (.file _) => .error .notDirectory
      | some .directory => walk fs (place.child name) rest

/-- The place that a path names, with what is there. -/
def locate (fs : FileSystem) (path : Path) : Except IoFault (Place × Option Node) :=
  if path.toList.contains '\x00' then .error .zeroInPath
  else if path = "" then .error (.system .noEntry)
  else if maxPath < path.utf8ByteSize then .error (.system .nameTooLong)
  else (fs.walk ⟨Path.isAbsolute path, []⟩ (Path.names path)).mapError .system

/-- What a path leads to; a path that asks for a directory does not lead to a file. -/
def lookup (fs : FileSystem) (path : Path) : Except IoFault (Place × Node) := do
  match ← fs.locate path with
  | (_, none) => .error (.system .noEntry)
  | (place, some (.file object)) =>
    if Path.asksDirectory path then .error (.system .notDirectory) else .ok (place, .file object)
  | (place, some .directory) => .ok (place, .directory)

def exists? (fs : FileSystem) (path : Path) : Bool := (fs.lookup path).toBool

/-- The file at a path. -/
def file? (fs : FileSystem) (path : Path) : Option FileObject :=
  match fs.lookup path with
  | .ok (_, .file object) => fs.object? object
  | _ => none

def isDirectory (fs : FileSystem) (path : Path) : Bool :=
  match fs.lookup path with
  | .ok (_, .directory) => true
  | _ => false

/-- The content of the file at a path. A directory can be opened but not read. -/
def read (fs : FileSystem) (path : Path) : Except IoFault Bytes := do
  match ← fs.lookup path with
  | (_, .directory) => .error (.system .isDirectory)
  | (_, .file object) => .ok ((fs.object? object).map (·.content) |>.getD [])

/-- Opens a file for writing and empties it; a new one gets the given mode. -/
def openTruncated (fs : FileSystem) (path : Path) (mode : Nat) :
    Except IoFault (Nat × FileSystem) := do
  match ← fs.locate path with
  | (_, some .directory) => .error (.system .isDirectory)
  | (_, some (.file object)) =>
    if Path.asksDirectory path then .error (.system .notDirectory)
    else
      let old := (fs.object? object).map (·.mode) |>.getD mode
      .ok (object, fs.setObject object ⟨[], old⟩)
  | (place, none) =>
    if Path.asksDirectory path then .error (.system .isDirectory)
    else
      let object := fs.objects.length
      let grown : FileSystem := { fs with objects := fs.objects ++ [⟨[], mode⟩] }
      .ok (object, grown.setNode place (some (.file object)))

/-- Opens a file for writing and leaves its content. -/
def openExisting (fs : FileSystem) (path : Path) : Except IoFault Nat := do
  match ← fs.lookup path with
  | (_, .directory) => .error (.system .isDirectory)
  | (_, .file object) => .ok object

/-- Writes bytes over the beginning of a file. -/
def overwrite (fs : FileSystem) (object : Nat) (data : Bytes) : FileSystem :=
  match fs.object? object with
  | some file => fs.setObject object { file with content := data ++ file.content.drop data.length }
  | none => fs

def setMode (fs : FileSystem) (path : Path) (mode : Nat) : Except IoFault FileSystem := do
  match ← fs.lookup path with
  | (_, .directory) => .ok fs
  | (_, .file object) =>
    match fs.object? object with
    | some file => .ok (fs.setObject object { file with mode })
    | none => .ok fs

/-- The size of what a path leads to. -/
def length (fs : FileSystem) (path : Path) : Except IoFault Nat := do
  match ← fs.lookup path with
  | (_, .directory) => .ok 4096
  | (_, .file object) => .ok ((fs.object? object).map (·.content.length) |>.getD 0)

/-- Takes the name of a file away. -/
def remove (fs : FileSystem) (path : Path) : Except IoFault FileSystem := do
  match ← fs.lookup path with
  | (_, .directory) => .error (.system .isDirectory)
  | (place, .file _) => .ok (fs.setNode place none)

def makeDirectory (fs : FileSystem) (path : Path) : Except IoFault FileSystem := do
  match ← fs.locate path with
  | (_, some _) => .error (.system .fileExists)
  | (place, none) => .ok (fs.setNode place (some .directory))

/-- Makes a directory and those above it that are missing; `steps` are the names of the path from
its end, and the first of them is made last. -/
def makeSteps (fs : FileSystem) (absolute : Bool) : List String → Except IoFault FileSystem
  | [] => .ok fs
  | name :: above =>
    let text := "/".intercalate (name :: above).reverse
    let path : Path := if absolute then "/" ++ text else text
    let make (fs : FileSystem) : Except IoFault FileSystem :=
      match fs.makeDirectory path with
      | .ok fs => .ok fs
      | .error fault => if fs.isDirectory path then .ok fs else .error fault
    match fs.makeDirectory path with
    | .ok fs => .ok fs
    | .error fault =>
      if fault.isNotFound then do
        let fs ← makeSteps fs absolute above
        make fs
      else if fs.isDirectory path then .ok fs
      else .error fault

def makeDirectories (fs : FileSystem) (path : Path) : Except IoFault FileSystem :=
  if path.toList.contains '\x00' then .error .zeroInPath
  else fs.makeSteps (Path.isAbsolute path) (Path.steps path).reverse

end FileSystem

/-! ### Calls -/

/-- A call to the file system. -/
inductive FileCall where
  | makeDirectories (path : Path)
  | openTruncated (path : Path) (mode : Nat)
  | openExisting (path : Path)
  | overwrite (object : Nat) (data : Bytes)
  /-- Waits until the content is on the disk. -/
  | sync (object : Nat)
  | setMode (path : Path) (mode : Nat)
  | length (path : Path)
  | remove (path : Path)
  | read (path : Path)
deriving DecidableEq, Repr

/-- What a call gives when it does not fail. -/
def FileCall.Result : FileCall → Type
  | openTruncated .. | openExisting _ | length _ => Nat
  | read _ => Bytes
  | _ => Unit

def FileCall.Answer (call : FileCall) : Type := Except IoFault call.Result

/-- Programs over the file system. -/
abbrev FileProgram : Type → Type := Program FileCall FileCall.Answer

namespace FileSystem

/-- A call that changes the file system or fails. -/
def change (fs : FileSystem) : Except IoFault FileSystem → Except IoFault Unit × FileSystem
  | .ok fs => (.ok (), fs)
  | .error fault => (.error fault, fs)

/-- What a call does. -/
def answer (fs : FileSystem) : (call : FileCall) → call.Answer × FileSystem
  | .makeDirectories path => fs.change (fs.makeDirectories path)
  | .openTruncated path mode =>
    match fs.openTruncated path mode with
    | .ok (object, fs) => (.ok object, fs)
    | .error fault => (.error fault, fs)
  | .openExisting path => (fs.openExisting path, fs)
  | .overwrite object data => (.ok (), fs.overwrite object data)
  | .sync _ => (.ok (), fs)
  | .setMode path mode => fs.change (fs.setMode path mode)
  | .length path => (fs.length path, fs)
  | .remove path => fs.change (fs.remove path)
  | .read path => (fs.read path, fs)

/-- Puts a file with the given content at a path, making the directories it lies in. The mode of a
file that is there already stays. -/
def put (fs : FileSystem) (path : Path) (content : Bytes) (mode : Nat) :
    Except IoFault FileSystem := do
  let fs ← fs.makeDirectories ((Path.parent? path).getD "")
  let (object, fs) ← fs.openTruncated path mode
  return fs.overwrite object content

end FileSystem

end WorkloadIdentity
