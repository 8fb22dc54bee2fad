import PathSeal.Key.Handle

/-!
# PathSeal.KeyMap.Error

Faults of a key mapping and of the paths that are looked up in it.
-/

namespace PathSeal.KeyMap

/-- Why a mapping cannot be read or a path has no key. -/
inductive Error where
  | empty
  | malformedEntry (entry : String)
  | invalidKey (entry : String) (cause : Key.HandleError)
  | duplicateScope (scope : String)
  | invalidObjectPath (path : String)
  | unmapped (bucket : String)
deriving DecidableEq

namespace Error

/-- The text of a mapping fault. -/
def message : Error → String
  | empty => "bucket key mapping is empty"
  | malformedEntry entry =>
    s!"mapping entry {Text.quoted entry} is not of the form <bucket>[/<prefix>]:<key>"
  | invalidKey entry cause =>
    s!"mapping entry {Text.quoted entry} has an invalid key: {cause.message}"
  | duplicateScope scope => s!"bucket scope {Text.quoted scope} is mapped more than once"
  | invalidObjectPath path => s!"object path {Text.quoted path} does not name a bucket"
  | unmapped bucket => s!"no master key is mapped for bucket {Text.quoted bucket}"

/-- The texts of a fault and of what lies beneath it, outermost first. -/
def chain : Error → List String
  | e@(invalidKey _ cause) => [e.message, cause.message]
  | e => [e.message]

end Error
end PathSeal.KeyMap
