import WorkloadIdentity.Text.Blank
import WorkloadIdentity.Text.Segments

/-!
Which events are logged. A filter is a list of rules between commas: a level, the name of a part
of the program, or both with an equals sign between them. Of the rules for a part, the one with
the longest name decides; without any usable rule errors are logged. Rules that are malformed do
not count.
-/

namespace WorkloadIdentity

/-- How much is logged. -/
inductive LogLevel where
  | off
  | error
  | warn
  | info
  | debug
  | trace
deriving DecidableEq, Repr

namespace LogLevel

def all : List LogLevel := [off, error, warn, info, debug, trace]

def name : LogLevel → String
  | off => "off"
  | error => "error"
  | warn => "warn"
  | info => "info"
  | debug => "debug"
  | trace => "trace"

/-- Reads a level, by its name in any letter case or by its number. No name at all means
errors. -/
def ofText? (text : List Char) : Option LogLevel :=
  if text.isEmpty then some error
  else
    let lower := text.map Char.toLower
    all.zipIdx.findSome? fun (level, number) =>
      if level.name.toList == lower || Nat.toDigits 10 number == text then some level else none

end LogLevel

/-- A rule for the parts of the program whose names begin with a text. -/
structure LogRule where
  part : List Char
  level : LogLevel
deriving DecidableEq, Repr

namespace LogRule

/-- What a rule may begin with. -/
def isFirst (c : Char) : Bool := c.isAlphanum || c == '-' || c == ':' || c == '_'

/-- A level alone is for all parts; a name alone lets all its events through. -/
def ofText? (raw : List Char) : Option LogRule :=
  let text := Text.trim raw
  if !(text.head?.any isFirst) then none
  else
    match text.dropWhile (· != '=') with
    | _ :: level =>
      (LogLevel.ofText? level).map fun level => ⟨text.takeWhile (· != '='), level⟩
    | [] =>
      match LogLevel.ofText? text with
      | some level => some ⟨[], level⟩
      | none => some ⟨text, .trace⟩

end LogRule

namespace LogFilter

/-- The rules of a filter. -/
def rules (text : String) : List LogRule :=
  let found := ((Text.splitOn ',' text.toList).filter (!·.isEmpty)).filterMap LogRule.ofText?
  if found.isEmpty then [⟨[], .error⟩] else found

/-- No rule of a filter is malformed. -/
def isWellFormed (text : String) : Bool :=
  ((Text.splitOn ',' text.toList).filter (!·.isEmpty)).all fun rule => (LogRule.ofText? rule).isSome

/-- The filter of the environment, unless there is none or it is malformed, and else the one that
was asked for. -/
def choose (setting? : Option String) (asked : String) : String :=
  match setting? with
  | some text => if isWellFormed text then text else asked
  | none => asked

/-- Of two rules the one with the longer name, and the later one of two for the same part. -/
def stronger (best : Option LogRule) (rule : LogRule) : Option LogRule :=
  match best with
  | some best => if rule.part.length < best.part.length then some best else some rule
  | none => some rule

/-- Whether errors in a part of the program are logged. -/
def logsErrors (text part : String) : Bool :=
  match ((rules text).filter fun rule => rule.part.isPrefixOf part.toList).foldl stronger none with
  | some rule => rule.level != .off
  | none => false

end LogFilter

end WorkloadIdentity
