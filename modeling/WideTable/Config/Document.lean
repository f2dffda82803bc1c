import WideTable.Config
import WideTable.Decimal.Layout
import WideTable.Toml.Document

namespace WideTable.Config

open Toml (Document Value)

namespace Key

def all : List Key :=
  [projectId, instanceId, profile]

def ofName? (name : String) : Option Key :=
  all.find? (·.name = name)

@[simp]
theorem ofName?_name (key : Key) : ofName? key.name = some key := by
  cases key <;> rfl

theorem ofName?_eq_some_iff {name : String} {key : Key} :
    ofName? name = some key ↔ key.name = name where
  mp h  := by simpa using List.find?_some h
  mpr h := h ▸ ofName?_name key

end Key

inductive DocumentError
  -- The text is no TOML.
  | malformed
  | unknown (key : String)
  | notText (found : Value)
  | missing (key : Key)

namespace DocumentError

def quoted (s : String) : String :=
  "\x60" ++ s ++ "\x60"

def wideSize : Int :=
  UInt64.size * UInt64.size

def kindOfInteger (n : Int) : String :=
  let numeral := "integer " ++ quoted (toString n)
  if Int64.minValue.toInt ≤ n ∧ n < UInt64.size then numeral
  else if n < wideSize / 2 then numeral ++ " as i128"
  else numeral ++ " as u128"

-- Numbers without a value or beyond 128 bits have no name.
def kind? : Value → Option String
  | .string _ => "string"
  | .integer n => if -(wideSize / 2) ≤ n ∧ n < wideSize then kindOfInteger n else none
  | .float x => "floating point " ++ quoted (Decimal.Layout.plain.render x)
  | .valueless => none
  | .boolean b => "boolean " ++ quoted (toString b)
  | .array _ | .tables _ => "sequence"
  | .dateTime | .table _ _ => "map"

def detail? : DocumentError → Option String
  | malformed => none
  | unknown key =>
    "unknown field " ++ quoted key ++ ", expected one of " ++
      ", ".intercalate (Key.all.map fun k => quoted k.name)
  | notText found => (kind? found).map fun kind => "invalid type: " ++ kind ++ ", expected a string"
  | missing key => "missing field " ++ quoted key.name

end DocumentError

def checkEntry (e : String × Value) : Except DocumentError Unit :=
  match Key.ofName? e.1, e.2 with
  | none, _ => throw (.unknown e.1)
  | some _, .string _ => return
  | some _, found => throw (.notText found)

def textAt? (d : Document) (key : Key) : Option String :=
  match d.find? key.name with
  | some (.string s) => some s
  | _ => none

def required (d : Document) (key : Key) : Except DocumentError String :=
  match textAt? d key with
  | some s => return s
  | none => throw (.missing key)

def ofSettings (d : Document) : Except DocumentError Config := do
  d.entries.forM checkEntry
  return {
    projectId := ← required d .projectId
    instanceId := ← required d .instanceId
    profile := textAt? d .profile }

inductive ContentError
  | document (e : DocumentError)
  | invalid (e : Invalid)

-- The keys of a document are looked at in their order, then the settings that have to be there, and then
-- the ids themselves.
def ofDocument (d : Document) : Except ContentError Config := do
  let c ← (ofSettings d).mapError .document
  c.validate.mapError .invalid
  return c

def ofText (text : String) : Except ContentError Config :=
  match Document.ofText? text with
  | some d => ofDocument d
  | none => throw (.document .malformed)

def ContentError.headline : ContentError → String
  | document _ => "failed to parse config: "
  | invalid e => e.message

end WideTable.Config
