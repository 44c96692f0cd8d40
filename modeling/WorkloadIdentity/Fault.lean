import WorkloadIdentity.Text.Utf8

/-!
Faults of the file system. `IoFault.kind` is what callers branch on; `IoFault.message` is what is
shown to a person.
-/

namespace WorkloadIdentity

/-- A path as it was configured, relative to the working directory unless it starts with a
slash. -/
abbrev Path := String

/-- What went wrong with a file, as far as callers tell such faults apart. -/
inductive IoKind where
  | notFound
  | permissionDenied
  | alreadyExists
  | invalidData
  | invalidInput
  | isDirectory
  | notDirectory
  | invalidName
  | other
deriving DecidableEq, Repr

/-- The bare kind in words. -/
def IoKind.message : IoKind → String
  | .notFound => "entity not found"
  | .permissionDenied => "permission denied"
  | .alreadyExists => "entity already exists"
  | .invalidData => "invalid data"
  | .invalidInput => "invalid input parameter"
  | .isDirectory => "is a directory"
  | .notDirectory => "not a directory"
  | .invalidName => "invalid filename"
  | .other => "other error"

/-- Faults that the system reports by number. -/
inductive SystemFault where
  | noEntry
  | permission
  | fileExists
  | notDirectory
  | isDirectory
  | invalidArgument
  | nameTooLong
deriving DecidableEq, Repr

def SystemFault.kind : SystemFault → IoKind
  | .noEntry => .notFound
  | .permission => .permissionDenied
  | .fileExists => .alreadyExists
  | .notDirectory => .notDirectory
  | .isDirectory => .isDirectory
  | .invalidArgument => .invalidInput
  | .nameTooLong => .invalidName

def SystemFault.message : SystemFault → String
  | .noEntry => "No such file or directory (os error 2)"
  | .permission => "Permission denied (os error 13)"
  | .fileExists => "File exists (os error 17)"
  | .notDirectory => "Not a directory (os error 20)"
  | .isDirectory => "Is a directory (os error 21)"
  | .invalidArgument => "Invalid argument (os error 22)"
  | .nameTooLong => "File name too long (os error 36)"

/-- A fault of reading or writing a file. -/
inductive IoFault where
  /-- Reported by the system. -/
  | system (fault : SystemFault)
  /-- A bare kind without further words. -/
  | bare (kind : IoKind)
  /-- A kind with words of its own. -/
  | described (kind : IoKind) (words : String)
deriving DecidableEq, Repr

def IoFault.kind : IoFault → IoKind
  | .system fault => fault.kind
  | .bare kind => kind
  | .described kind _ => kind

def IoFault.message : IoFault → String
  | .system fault => fault.message
  | .bare kind => kind.message
  | .described _ words => words

def IoFault.isNotFound (fault : IoFault) : Bool := fault.kind == .notFound

/-- A file whose bytes are no text. -/
def IoFault.notText : IoFault :=
  .described .invalidData "stream did not contain valid UTF-8"

/-- A path that no system call takes. -/
def IoFault.zeroInPath : IoFault :=
  .described .invalidInput "file name contained an unexpected NUL byte"

end WorkloadIdentity
