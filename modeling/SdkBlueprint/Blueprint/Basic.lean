import SdkBlueprint.Blueprint.Model
import SdkBlueprint.Blueprint.Service

/-! A blueprint: everything a client generator needs to know about an API. -/
namespace SdkBlueprint

structure Info where
  title : Option String
  version : Option String
  deriving DecidableEq

structure Blueprint where
  info : Info
  models : List Model
  services : List Service

namespace Blueprint

def model? (b : Blueprint) (name : String) : Option Model :=
  b.models.find? fun m => m.name == name

def service? (b : Blueprint) (name : String) : Option Service :=
  b.services.find? fun s => s.name == name

end Blueprint
end SdkBlueprint
