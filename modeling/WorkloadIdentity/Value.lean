import WorkloadIdentity.Json.Reader
import WorkloadIdentity.Number.Floating
import WorkloadIdentity.Number.Word
import WorkloadIdentity.Text.Quoted

/-!
Settings before they have a type: what a JSON value, a YAML file and an environment variable all
come down to. The fields of a record have distinct names and stand in the order of their names, so
a record has one form whatever order its source had.
-/

namespace WorkloadIdentity

inductive Value where
  | null
  | bool (value : Bool)
  | int (value : Int)
  /-- A zero with a minus sign that is a whole number. -/
  | negativeZero
  | float (value : Floating)
  /-- A single character between single quotes; only the environment spells one. -/
  | char (value : Char)
  | text (value : String)
  | list (items : List Value)
  | record (fields : List (String × Value))
deriving Inhabited

/-- Named values in the order of their names. -/
abbrev Fields := List (String × Value)

namespace Fields

def get? (name : String) (fields : Fields) : Option Value :=
  (fields.find? fun field => field.1 == name).map (·.2)

/-- Puts a value under a name; an earlier one under that name is lost. -/
def insert (name : String) (value : Value) : Fields → Fields
  | [] => [(name, value)]
  | (other, old) :: rest =>
    if name = other then (name, value) :: rest
    else if name < other then (name, value) :: (other, old) :: rest
    else (other, old) :: insert name value rest

def ofList (pairs : List (String × Value)) : Fields :=
  pairs.foldl (fun fields (name, value) => insert name value fields) []

end Fields

namespace Value

mutual

/-- Puts `upper` over `lower`: records are joined name by name, and anything else replaces what
was there. -/
def overlay (lower upper : Value) : Value :=
  match upper with
  | .record upperFields =>
    match lower with
    | .record lowerFields => .record (overlayFields lowerFields upperFields)
    | _ => .record upperFields
  | other => other

/-- Puts the fields of `upper` over those of `lower`, one after the other. -/
def overlayFields (lower : Fields) : Fields → Fields
  | [] => lower
  | (name, value) :: rest =>
    let merged :=
      match Fields.get? name lower with
      | some old => overlay old value
      | none => value
    overlayFields (Fields.insert name merged lower) rest

end

/-- A number of a JSON body: a whole number if it is written as one and fits a word of 64 bits,
with or without sign. -/
def ofDecimal (d : Decimal) : Value :=
  match d.toInt? with
  | some i =>
    if d.negative && d.coefficient == 0 then .float (Floating.zero true)
    else if -(signedWord64 : Int) ≤ i && i < (word64 : Int) then .int i
    else .float (Floating.ofDecimal .double d)
  | none => .float (Floating.ofDecimal .double d)

mutual

/-- The value that a JSON text spells; a later member of an object replaces an earlier one of its
name. -/
def ofJson? : Json → Option Value
  | .null => some .null
  | .bool b => some (.bool b)
  | .number d => some (ofDecimal d)
  | .text raw => (Json.readText? raw).map .text
  | .array items => (ofJsonItems? items).map .list
  | .object members => (ofJsonMembers? members).map fun pairs => .record (Fields.ofList pairs)

def ofJsonItems? : List Json → Option (List Value)
  | [] => some []
  | item :: rest => do return (← ofJson? item) :: (← ofJsonItems? rest)

def ofJsonMembers? : List (Bytes × Json) → Option (List (String × Value))
  | [] => some []
  | (name, item) :: rest => do
    return ((← Json.readText? name), (← ofJson? item)) :: (← ofJsonMembers? rest)

end

end Value

end WorkloadIdentity
