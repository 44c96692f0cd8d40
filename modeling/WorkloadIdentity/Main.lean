import WorkloadIdentity.Service.Run

/-!
The command line: it collects the arguments, the environment and the files that the settings name,
runs the service on them, and carries what has come of that back to the disk and the terminal.
There is no connection to a broker here, so no request is answered.
-/

namespace WorkloadIdentity.Command

/-- The variables of a process as the system lists them: each is a name, an equals sign and a
value, and ends in a zero. What is no text is left out. -/
def environment (block : Bytes) : List (String × String) :=
  ((Text.splitOn '\x00' (block.map fun b => Char.ofNat b.toNat)).filterMap fun entry =>
    Utf8.decode? (entry.map fun c => UInt8.ofNat c.toNat)).filterMap fun text =>
      match text.dropWhile (· != '=') with
      | _ :: value => some (String.ofList (text.takeWhile (· != '=')), String.ofList value)
      | [] => none

/-- The permissions that files are taken to have. -/
def assumedMode : Nat := 0o644

/-- The files with what is at a path on the disk. -/
def withPath (files : FileSystem) (path : Path) : IO FileSystem := do
  match ← (IO.FS.readBinFile path).toBaseIO with
  | .ok content => return (files.put path content.toList assumedMode).toOption.getD files
  | .error _ =>
    match ← (IO.FS.realPath path).toBaseIO with
    | .ok found =>
      if ← found.isDir then return (files.makeDirectories path).toOption.getD files
      else return files
    | .error _ => return files

def asBytes (content : Bytes) : ByteArray := ⟨content.toArray⟩

/-- Brings a path on the disk from one state to another. What goes away is overwritten first. -/
def carryOut (before after : FileSystem) (path : Path) : IO Unit := do
  let old := (before.file? path).map (·.content)
  match old, (after.file? path).map (·.content) with
  | some content, none =>
    IO.FS.writeBinFile path (asBytes (wipe content))
    IO.FS.removeFile path
  | _, some content => if old ≠ some content then IO.FS.writeBinFile path (asBytes content)
  | none, none => pure ()

/-- The paths that a command line with its settings names. -/
def paths (files : FileSystem) (args : List String) (env : List (String × String)) : List Path :=
  match Arguments.read args env with
  | .error _ => []
  | .ok a =>
    match Settings.load files env a.config with
    | .error _ => []
    | .ok s => s.authorityPath.toList ++ [s.certificatePath, s.bearerPath] ++ s.tokenPath.toList

/-- The file of settings that a command line names. -/
def settingsPath (args : List String) (env : List (String × String)) : Option Path :=
  (Arguments.read args env).toOption.bind (·.config)

/-- More cycles and attempts than a run without answers gets to. -/
def plenty : Nat := word64

/-- A secret number for the key of this process. -/
def freshKey : IO SessionKey := do
  let bytes ← IO.getRandomBytes 32
  return ⟨bytes.toList.foldl (fun n b => n * 256 + b.toNat) 1⟩

/-- Says what there is to say, and waits as long as the run has taken. -/
def report (done : ServiceEnd) : IO Unit := do
  IO.sleep (UInt32.ofNat (min done.world.clock (word32 - 1)))
  done.printed.forM IO.print
  done.logLines.forM IO.println

def run (args : List String) : IO UInt32 := do
  let env := environment (← IO.FS.readBinFile "/proc/self/environ").toList
  let settings ← (settingsPath args env).toList.foldlM withPath .empty
  let names := paths settings args env
  let files ← names.foldlM withPath settings
  let world := World.quiet 0 files (.forPath none)
  match Service.run args env .undisturbed (← freshKey) plenty world with
  | none => return 1
  | some done =>
    names.forM (carryOut files done.world.files)
    report done
    return UInt32.ofNat done.exitCode

end WorkloadIdentity.Command

def main (args : List String) : IO UInt32 := WorkloadIdentity.Command.run args
