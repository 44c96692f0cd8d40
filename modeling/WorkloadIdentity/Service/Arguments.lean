import WorkloadIdentity.Fault
import WorkloadIdentity.Text.Segments

/-!
The arguments of the command line. Options have a long name, the file of settings also a short
one; a value is attached or is the next argument. An option that is not given is taken from the
environment.

A value that is the next argument is only taken when the option behind it is reached, or the end.
So an argument that is not known is found before a fault in the value in front of it, and a fault
in a value is found before the help that is asked for behind it.
-/

namespace WorkloadIdentity

/-- What the command line says. -/
structure Arguments where
  config : Option Path
  logLevel : String
  logFormat : Option String
  once : Bool
deriving DecidableEq, Repr

/-- What is wrong with a command line. -/
inductive UsageFault where
  | unknownArgument
  | invalidValue
  /-- An option is given twice. -/
  | conflict
  /-- There is a value where none belongs. -/
  | tooManyValues
deriving DecidableEq, Repr

/-- Why a command line does not lead to a run. -/
inductive Stop where
  | fault (fault : UsageFault)
  | help
  | version
deriving DecidableEq, Repr

/-- With an unusable command line the process ends in a way of its own. -/
def Stop.exitCode : Stop → Nat
  | .fault _ => 2
  | .help | .version => 0

/-- The options that take a value. -/
inductive ValueOption where
  | config
  | logLevel
  | logFormat
deriving DecidableEq, Repr

namespace ValueOption

def all : List ValueOption := [config, logLevel, logFormat]

/-- The name behind two dashes. -/
def name : ValueOption → String
  | config => "config"
  | logLevel => "log-level"
  | logFormat => "log-format"

/-- The variable of the environment that stands in for the option. -/
def variableName : ValueOption → String
  | config => "AUTHN_CONFIG"
  | logLevel => "AUTHN_LOG_LEVEL"
  | logFormat => "AUTHN_LOG_FORMAT"

/-- A path is not empty; the other values may be. -/
def accepts (o : ValueOption) (value : String) : Bool := o != config || value != ""

end ValueOption

/-- How far a command line has been read. -/
structure ArgumentScan where
  /-- The values that have been taken. -/
  values : List (ValueOption × String)
  once : Bool
  /-- An option whose value has not been taken yet, and the value if it has come by. -/
  pending : Option (ValueOption × Option String)

namespace ArgumentScan

def start : ArgumentScan := ⟨[], false, none⟩

def value? (s : ArgumentScan) (o : ValueOption) : Option String := s.values.lookup o

/-- Takes the value of an option. -/
def take (s : ArgumentScan) (o : ValueOption) (value : String) : Except Stop ArgumentScan :=
  if (s.value? o).isSome then .error (.fault .conflict)
  else if o.accepts value then .ok { s with values := (o, value) :: s.values }
  else .error (.fault .invalidValue)

/-- Takes the value that is pending. -/
def settle (s : ArgumentScan) : Except Stop ArgumentScan :=
  match s.pending with
  | none => .ok s
  | some (_, none) => .error (.fault .invalidValue)
  | some (o, some value) => { s with pending := none }.take o value

/-- An option, with a value attached or not. -/
def option (s : ArgumentScan) (o : ValueOption) (attached : Option String) :
    Except Stop ArgumentScan := do
  let s ← s.settle
  match attached with
  | some value => s.take o value
  | none => return { s with pending := some (o, none) }

def onceFlag (s : ArgumentScan) : Except Stop ArgumentScan := do
  let s ← s.settle
  if s.once then throw (.fault .conflict) else return { s with once := true }

/-- Something that is asked for instead of a run. -/
def stop (s : ArgumentScan) (what : Stop) : Except Stop ArgumentScan := do
  let _ ← s.settle
  throw what

/-- An argument behind two dashes. -/
def long (s : ArgumentScan) (text : List Char) : Except Stop ArgumentScan :=
  let name := String.ofList (text.takeWhile (· != '='))
  let attached : Option String :=
    match text.dropWhile (· != '=') with
    | _ :: value => some (String.ofList value)
    | [] => none
  let bare (step : Except Stop ArgumentScan) : Except Stop ArgumentScan :=
    if attached.isSome then .error (.fault .tooManyValues) else step
  match ValueOption.all.find? fun o => o.name == name with
  | some o => s.option o attached
  | none =>
    if name = "once" then bare s.onceFlag
    else if name = "help" then bare (s.stop .help)
    else if name = "version" then bare (s.stop .version)
    else .error (.fault .unknownArgument)

/-- An argument behind one dash. -/
def short (s : ArgumentScan) : List Char → Except Stop ArgumentScan
  | 'c' :: rest =>
    let value := if rest.head? = some '=' then rest.drop 1 else rest
    s.option .config (if rest.isEmpty then none else some (String.ofList value))
  | 'h' :: _ => s.stop .help
  | 'V' :: _ => s.stop .version
  | _ => .error (.fault .unknownArgument)

/-- An argument that is no option, which has to be a value. -/
def plain (s : ArgumentScan) (text : String) : Except Stop ArgumentScan :=
  match s.pending with
  | some (o, none) => .ok { s with pending := some (o, some text) }
  | _ => .error (.fault .unknownArgument)

/-- The next argument. -/
def argument (s : ArgumentScan) (text : String) : Except Stop ArgumentScan :=
  match text.toList with
  | '-' :: '-' :: rest => s.long rest
  | '-' :: c :: rest => s.short (c :: rest)
  | _ => s.plain text

/-- Reads the arguments to their end, or to two dashes alone, behind which nothing is known. -/
def read (s : ArgumentScan) : List String → Except Stop ArgumentScan
  | [] => s.settle
  | "--" :: rest => if rest.isEmpty then s.settle else .error (.fault .unknownArgument)
  | text :: rest => do read (← s.argument text) rest

end ArgumentScan

namespace Arguments

def programName : String := "workload-authn"
def programVersion : String := "0.1.0"

/-- What is printed when the version is asked for. -/
def versionLine : String := programName ++ " " ++ programVersion ++ "\n"

def defaultLogLevel : String := "info"

/-- The value of an option, from the command line or else from the environment. -/
def value (s : ArgumentScan) (env : List (String × String)) (o : ValueOption) :
    Except Stop (Option String) :=
  match s.value? o, env.lookup o.variableName with
  | some value, _ => .ok (some value)
  | none, none => .ok none
  | none, some value => if o.accepts value then .ok (some value) else .error (.fault .invalidValue)

def read (args : List String) (env : List (String × String)) : Except Stop Arguments := do
  let s ← ArgumentScan.start.read args
  let config ← value s env .config
  let logLevel ← value s env .logLevel
  let logFormat ← value s env .logFormat
  return { config, logFormat, once := s.once, logLevel := logLevel.getD defaultLogLevel }

end Arguments

end WorkloadIdentity
