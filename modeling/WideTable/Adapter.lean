import WideTable.Store.Read

namespace WideTable

inductive AdapterError
  | pattern (cause : PatternError)
  | failed (text : String)
  deriving DecidableEq, Repr

structure Adapter (σ : Type) where
  readRows : Request → σ → Except AdapterError (List Row) × σ

namespace Adapter

def memory : Adapter MemoryStore where
  readRows r m := ((m.read r).1.mapError .pattern, (m.read r).2)

def constant (rows : List Row) : Adapter Unit where
  readRows _ _ := (.ok rows, ())

def failing (text : String) : Adapter Unit where
  readRows _ _ := (.error (.failed text), ())

end Adapter
end WideTable
