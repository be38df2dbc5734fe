import DaoMapper.Cql.Identifier

namespace DaoMapper.Cql

structure CacheKey where
  keyspace : Option Identifier
  table : Option Identifier
  deriving DecidableEq, Repr

-- The keyspace is read first, so its error wins.
def CacheKey.ofArgs (keyspace table : NameArg) : Except NameError CacheKey := do
  let k ← keyspace.resolve
  let t ← table.resolve
  return ⟨k, t⟩

end DaoMapper.Cql
