import WideTable.Error

namespace WideTable

structure TableName where
  projectId  : String
  instanceId : String
  tableId    : String
  deriving DecidableEq, Repr

namespace TableName

def isIdByte (b : UInt8) : Bool :=
  Text.isAsciiWord b || b == '-'.toUInt8 || b == '.'.toUInt8

def isTableId (id : String) : Bool :=
  match Bytes.ofText id with
  | [] => false
  | b :: bs =>
    bs.length < 50 && b != '-'.toUInt8 && b != '.'.toUInt8 && (b :: bs).all isIdByte

def ofId (projectId instanceId id : String) : Except ReadError TableName :=
  if isTableId id then return ⟨projectId, instanceId, id⟩ else throw (.tableName id)

def fullName (n : TableName) : String :=
  "projects/" ++ n.projectId ++ "/instances/" ++ n.instanceId ++ "/tables/" ++ n.tableId

end TableName
end WideTable
