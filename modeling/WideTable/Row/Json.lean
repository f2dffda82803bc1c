import WideTable.Decimal.Layout
import WideTable.Json
import WideTable.Row
import WideTable.Store.SortedMap

namespace WideTable

inductive Expected
  | bytes
  | byte
  | timestamp
  | text
  | list
  | record (name : String) (size : Nat)
  deriving DecidableEq, Repr

namespace Expected

def label : Expected → String
  | bytes => "byte array"
  | byte => "u8"
  | timestamp => "i64"
  | text => "a string"
  | list => "a sequence"
  | record name _ => "struct " ++ name

end Expected

inductive DecodeError
  | type (found : Json) (expected : Expected)
  | range (found : Int) (expected : Expected)
  | tooShort (length : Nat) (expected : Expected)
  | tooLong (length : Nat)
  | missing (field : String)
  deriving Repr

namespace Json

def describe : Json → String
  | null => "null"
  | bool b => "boolean `" ++ (if b then "true" else "false") ++ "`"
  | int n => "integer `" ++ n.repr ++ "`"
  | float x => "floating point `" ++ Decimal.Layout.json.render x ++ "`"
  | string s => "string " ++ Text.quote s
  | array _ => "sequence"
  | object _ => "map"

end Json

def DecodeError.message : DecodeError → String
  | type found expected => "invalid type: " ++ found.describe ++ ", expected " ++ expected.label
  | range found expected =>
    "invalid value: " ++ (Json.int found).describe ++ ", expected " ++ expected.label
  | tooShort length expected =>
    "invalid length " ++ length.repr ++ ", expected " ++ expected.label ++
      (match expected with
        | .record _ size => " with " ++ size.repr ++ " elements"
        | _ => "")
  | tooLong length => "invalid length " ++ length.repr ++ ", expected fewer elements in array"
  | missing field => "missing field `" ++ field ++ "`"

abbrev Decoded := Except DecodeError

namespace Json

def byte? : Json → Decoded UInt8
  | int n => if 0 ≤ n ∧ n < 256 then return n.toNat.toUInt8 else throw (.range n .byte)
  | j => throw (.type j .byte)

def bytes? : Json → Decoded Bytes
  | string s => return Bytes.ofText s
  | array items => items.mapM byte?
  | j => throw (.type j .bytes)

def timestamp? : Json → Decoded Int64
  | int n =>
    if Int64.minValue.toInt ≤ n ∧ n ≤ Int64.maxValue.toInt then return Int64.ofInt n
    else throw (.range n .timestamp)
  | j => throw (.type j .timestamp)

def text? : Json → Decoded String
  | string s => return s
  | j => throw (.type j .text)

def list? {α : Type} (f : Json → Decoded α) : Json → Decoded (List α)
  | array items => items.mapM f
  | j => throw (.type j .list)

def ofBytes (bs : Bytes) : Json :=
  array (bs.map fun b => int b.toNat)

end Json

-- The fields of a record in order, each with the check that its value passes. A record may also be given
-- as an array of its fields, and members that are no field are passed over.
structure Schema where
  name   : String
  fields : List (String × (Json → Decoded Unit))

namespace Schema

def expected (s : Schema) : Expected :=
  .record s.name s.fields.length

def ofItems (s : Schema) (length : Nat) :
    (index : Nat) → List (String × (Json → Decoded Unit)) → List Json → Decoded (List Json)
  | _, [], [] => return []
  | _, [], _ :: _ => throw (.tooLong length)
  | index, _ :: _, [] => throw (.tooShort index s.expected)
  | index, (_, check) :: fields, j :: js => do
    check j
    return j :: (← s.ofItems length (index + 1) fields js)

def checkMembers (s : Schema) : List (String × Json) → Decoded Unit
  | [] => return
  | (name, j) :: ms => do
    match s.fields.lookup name with
    | some check => check j
    | none => pure ()
    s.checkMembers ms

def required (members : SortedMap String Json) : List (String × (Json → Decoded Unit)) → Decoded (List Json)
  | [] => return []
  | (name, _) :: fields =>
    match members.find? name with
    | some j => do return j :: (← required members fields)
    | none => throw (.missing name)

-- The members of an object are checked in the order of their names, and only then a field may be missing.
-- Of two members with one name the later one counts.
def read (s : Schema) : Json → Decoded (List Json)
  | .array items => s.ofItems items.length 0 s.fields items
  | .object members => do
    let sorted := members.foldl (fun m (name, j) => m.alter name fun _ => j) SortedMap.empty
    s.checkMembers sorted.entries
    required sorted s.fields
  | j => throw (.type j s.expected)

end Schema

namespace Cell

def schema : Schema where
  name := "Cell"
  fields := [
    ("timestamp_micros", fun j => discard (Json.timestamp? j)),
    ("value", fun j => discard (Json.bytes? j)),
    ("labels", fun j => discard (Json.list? Json.text? j))]

def ofJson (j : Json) : Decoded Cell := do
  match ← schema.read j with
  | [timestamp, value, labels] =>
    return ⟨← Json.timestamp? timestamp, ← Json.bytes? value, ← Json.list? Json.text? labels⟩
  | _ => throw (.type j schema.expected)

def toJson (c : Cell) : Json :=
  .object [("timestamp_micros", .int c.timestamp.toInt), ("value", .ofBytes c.value),
    ("labels", .array (c.labels.map .string))]

end Cell

namespace Column

def schema : Schema where
  name := "Column"
  fields := [
    ("qualifier", fun j => discard (Json.bytes? j)),
    ("cells", fun j => discard (Json.list? Cell.ofJson j))]

def ofJson (j : Json) : Decoded Column := do
  match ← schema.read j with
  | [qualifier, cells] => return ⟨← Json.bytes? qualifier, ← Json.list? Cell.ofJson cells⟩
  | _ => throw (.type j schema.expected)

def toJson (c : Column) : Json :=
  .object [("qualifier", .ofBytes c.qualifier), ("cells", .array (c.cells.map Cell.toJson))]

end Column

namespace Family

def schema : Schema where
  name := "Family"
  fields := [
    ("name", fun j => discard (Json.text? j)),
    ("columns", fun j => discard (Json.list? Column.ofJson j))]

def ofJson (j : Json) : Decoded Family := do
  match ← schema.read j with
  | [name, columns] => return ⟨← Json.text? name, ← Json.list? Column.ofJson columns⟩
  | _ => throw (.type j schema.expected)

def toJson (f : Family) : Json :=
  .object [("name", .string f.name), ("columns", .array (f.columns.map Column.toJson))]

end Family

namespace Row

def schema : Schema where
  name := "Row"
  fields := [
    ("key", fun j => discard (Json.bytes? j)),
    ("families", fun j => discard (Json.list? Family.ofJson j))]

def ofJson (j : Json) : Decoded Row := do
  match ← schema.read j with
  | [key, families] => return ⟨← Json.bytes? key, ← Json.list? Family.ofJson families⟩
  | _ => throw (.type j schema.expected)

def toJson (r : Row) : Json :=
  .object [("key", .ofBytes r.key), ("families", .array (r.families.map Family.toJson))]

end Row
end WideTable
