import WorkloadIdentity.Settings.Derived
import WorkloadIdentity.Settings.Environment
import WorkloadIdentity.Settings.Reading
import WorkloadIdentity.Yaml.Fields

/-!
The configuration from its three layers: the defaults, a YAML file, and the environment. Records
are joined name by name and the higher layer wins; only what comes out of that is checked, so a
bad value that a higher layer replaces is no problem. A problem is told with the key and the layer
that the value is from.
-/

namespace WorkloadIdentity

/-- What is at the end of a path: fields by name, and items by their number. -/
def Value.at? : Value → List String → Option Value
  | value, [] => some value
  | .record fields, name :: path =>
    match Fields.get? name fields with
    | some value => value.at? path
    | none => none
  | .list items, index :: path =>
    match (Text.readNat items.length index.toList).toOption.bind (items[·]?) with
    | some value => value.at? path
    | none => none
  | _, _ :: _ => none
termination_by _ path => path.length

namespace Settings

/-- The file as it is named in messages. -/
def shownFile (path : Path) : String :=
  let names := "/".intercalate ((Path.names path).filter (· ≠ "."))
  if Path.isAbsolute path then "/" ++ names else names

/-- Where a value is from: the environment if it has one at the path, and else the file. -/
def shownSource (environment : Value) (file : Option Path) (path : List String) : String :=
  let key (names : List String) : String := Text.quoted (".".intercalate names)
  match environment.at? path, file with
  | some _, _ =>
    let upper (name : String) : String := String.ofList (name.toList.map Char.toUpper)
    " for key " ++ key (path.map upper) ++ " in \x60AUTHN_\x60 environment variable(s)"
  | none, some file =>
    " for key " ++ key ("default" :: path) ++ " in " ++ shownFile file ++ " YAML file"
  | none, none => ""

/-- The values of a file. What is there but no file, such as a directory, gives none. -/
def readFile (fs : FileSystem) (path : Path) : Except Failure Value :=
  match fs.lookup path with
  | .error _ => .error (.settings (.fileNotFound path))
  | .ok (_, .directory) => .ok (.record [])
  | .ok (_, .file object) =>
    let content := (fs.object? object).map (·.content)
    let refused (words : String) : Except Failure Value :=
      .error (.settings (.described (words ++ " in " ++ shownFile path ++ " YAML file")))
    match Utf8.decode? (content.getD []) with
    | none => refused IoFault.notText.message
    | some text =>
      match Yaml.fields text with
      | .ok fields => .ok (.record fields)
      | .error fault => refused fault.message

/-- Loads the configuration. -/
def load (fs : FileSystem) (vars : List (String × String)) (path : Option Path) :
    Except Failure Settings := do
  let file ←
    match path with
    | some path => readFile fs path
    | none => pure (.record [])
  let environment := Environment.read vars
  let merged := (Settings.default.written.overlay file).overlay environment
  match Settings.read .layered merged with
  | .ok settings => return settings
  | .error problem =>
    throw (.settings (.described
      (Dialect.layered.message problem.mismatch ++ shownSource environment path problem.path)))

end Settings

end WorkloadIdentity
