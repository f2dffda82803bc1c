import WideTable.Adapter

namespace WideTable

inductive ReadError
  | selection (cause : SelectionError)
  | range (cause : RangeError)
  | tableName (id : String)
  -- The request is kept, so that one can see what was asked for.
  | execution (request : Request) (cause : AdapterError)
  deriving Repr

namespace ReadError

-- If the adapter failed, its reason follows.
def headline : ReadError → String
  | selection cause => cause.message
  | range cause => cause.message
  | tableName id => "Invalid table name: " ++ Text.quote id
  | execution request _ => "Read from " ++ request.table ++ " failed: "

def request? : ReadError → Option Request
  | execution request _ => some request
  | _ => none

end ReadError
end WideTable
