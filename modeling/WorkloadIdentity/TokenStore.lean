import WorkloadIdentity.Failure
import WorkloadIdentity.FileSystem
import WorkloadIdentity.Text.Quoted

/-!
Where the access token is handed over: a single slot in memory, or a file on a shared volume with
a copy in memory beside it. Tokens are overwritten with zeros before they are dropped: in memory
by `wipe`, on disk before the file is unlinked.

A store in a file works by calls to the file system (`TokenFile.write`, `TokenFile.erase`), each
of which may fail and between which others may look.
-/

namespace WorkloadIdentity

/-- Zeros in the place of every byte. -/
def wipe (bytes : Bytes) : Bytes := bytes.map fun _ => 0

/-! ### In memory -/

/-- A slot for one token. -/
structure MemoryStore where
  token : Option Bytes
deriving DecidableEq, Repr

namespace MemoryStore

def empty : MemoryStore := ⟨none⟩

def read (store : MemoryStore) : Except Failure Bytes :=
  match store.token with
  | some token => .ok token
  | none => .error .noData

def write (store : MemoryStore) (data : Bytes) : Except Failure Unit × MemoryStore :=
  if data.isEmpty then (.error .emptyPayload, store) else (.ok (), ⟨some data⟩)

/-- Deletes the token; that there is none is no failure. -/
def delete (_store : MemoryStore) : Except Failure Unit × MemoryStore := (.ok (), empty)

def shown (store : MemoryStore) : String :=
  "MemoryAccessToken \x7b populated: " ++
    (if store.token.isSome then "true" else "false") ++ " \x7d"

end MemoryStore

/-! ### In a file -/

/-- A store at a path, and the copy of what it wrote last. -/
structure FileStore where
  path : Path
  copy : Option Bytes
deriving DecidableEq, Repr

namespace TokenFile

/-- A call as a step of a program that ends at the first fault. -/
def call (c : FileCall) : ExceptT IoFault FileProgram c.Result :=
  ExceptT.mk (Program.call c)

/-- Writes the token to its file: makes the directories, opens the file for its owner alone and
empties it, writes, and tightens the mode of a file that was there before. -/
def write (path : Path) (data : Bytes) : ExceptT IoFault FileProgram Unit := do
  match Path.parent? path with
  | some parent => if parent ≠ "" then call (.makeDirectories parent)
  | none => pure ()
  let object ← call (.openTruncated path ownerOnly)
  call (.overwrite object data)
  call (.sync object)
  call (.setMode path ownerOnly)

/-- Overwrites the file with zeros and takes its name away. -/
def erase (path : Path) : ExceptT IoFault FileProgram Unit := do
  let length ← call (.length path)
  let object ← call (.openExisting path)
  call (.overwrite object (List.replicate length 0))
  call (.sync object)
  call (.remove path)

end TokenFile

namespace FileStore

def create (path : Path) : FileStore := ⟨path, none⟩

/-- The token is what the file holds, whoever wrote it. -/
def read (store : FileStore) (fs : FileSystem) : Except Failure Bytes :=
  match fs.read store.path with
  | .ok data => if data.isEmpty then .error .noData else .ok data
  | .error fault => if fault.isNotFound then .error .noData else .error (.io fault)

/-- The copy changes only after the whole file was written. -/
def write (store : FileStore) (data : Bytes) (fs : FileSystem) :
    Except Failure Unit × FileStore × FileSystem :=
  if data.isEmpty then (.error .emptyPayload, store, fs)
  else
    match (TokenFile.write store.path data).run.run FileSystem.answer fs with
    | (.ok (), fs) => (.ok (), { store with copy := some data }, fs)
    | (.error fault, fs) => (.error (.io fault), store, fs)

/-- The copy goes first, and stays away even if the file cannot be removed. -/
def delete (store : FileStore) (fs : FileSystem) : Except Failure Unit × FileStore × FileSystem :=
  let store := { store with copy := none }
  match (TokenFile.erase store.path).run.run FileSystem.answer fs with
  | (.ok (), fs) => (.ok (), store, fs)
  | (.error fault, fs) =>
    if fault.isNotFound then (.error (.tokenFileMissing store.path), store, fs)
    else (.error (.io fault), store, fs)

def shown (store : FileStore) : String :=
  "FileAccessToken \x7b path: " ++ Text.quoted store.path ++ ", populated: " ++
    (if store.copy.isSome then "true" else "false") ++ " \x7d"

end FileStore

/-! ### Either -/

/-- A place for the token. -/
inductive TokenStore where
  | memory (store : MemoryStore)
  | file (store : FileStore)
deriving DecidableEq, Repr

namespace TokenStore

/-- In a file if there is a path for one, and in memory otherwise. -/
def forPath : Option Path → TokenStore
  | some path => .file (.create path)
  | none => .memory .empty

def read (store : TokenStore) (fs : FileSystem) : Except Failure Bytes :=
  match store with
  | .memory store => store.read
  | .file store => store.read fs

def write (store : TokenStore) (data : Bytes) (fs : FileSystem) :
    Except Failure Unit × TokenStore × FileSystem :=
  match store with
  | .memory store =>
    let (result, store) := store.write data
    (result, .memory store, fs)
  | .file store =>
    let (result, store, fs) := store.write data fs
    (result, .file store, fs)

def delete (store : TokenStore) (fs : FileSystem) : Except Failure Unit × TokenStore × FileSystem :=
  match store with
  | .memory store =>
    let (result, store) := store.delete
    (result, .memory store, fs)
  | .file store =>
    let (result, store, fs) := store.delete fs
    (result, .file store, fs)

def shown : TokenStore → String
  | .memory store => store.shown
  | .file store => store.shown

end TokenStore

end WorkloadIdentity
