import Bindery.Config.Decode
import Bindery.Toml.Parser

/-!
# Loading configurations
-/
namespace Bindery.Config

def parse (text : String) : Outcome Config :=
  match Toml.parse? text >>= decode false with
  | none => .error .malformedConfig
  | some c => c.validate

end Bindery.Config
