import DaoMapper.Value

-- The library for documents in YAML: it is somebody else's code. To read a text gives a
-- value or the kind of an exception; not every value has a text.
namespace DaoMapper.Yaml

class Library where
  read : String → Except String Value
  write : Value → Option String

end DaoMapper.Yaml
