import DaoMapper.Yaml.Document
import DaoMapper.Yaml.Library
import DaoMapper.Yaml.Writer

-- The library that is in use: plain values only, in the older version of the language.
namespace DaoMapper.Yaml.Safe

scoped instance : Library where
  read s := (Yaml.read s).mapError Fault.kind
  write := write?

end DaoMapper.Yaml.Safe
