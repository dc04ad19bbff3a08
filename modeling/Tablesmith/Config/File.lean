/-
# The configuration file

The configuration file is a YAML text, whatever line endings it has.
-/

import Tablesmith.Text.Line
import Tablesmith.Yaml.Schema

namespace Tablesmith
namespace Config

/-- The document of a configuration file. -/
def read (t : Text) : Except Yaml.Failure Value := Yaml.load (Text.unixNewlines t)

end Config
end Tablesmith
