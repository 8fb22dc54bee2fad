import PathSeal.KeyMap.Error

/-!
# PathSeal.KeyMap.Location

Where an object lies: its bucket and its name there. The parts only choose the
master key; what an envelope is bound to is always the whole path.
-/

namespace PathSeal.KeyMap

/-- The bucket of an object and its name in the bucket. -/
structure Location where
  bucket : String
  object : String
deriving DecidableEq

/-- The part before the first slash and the part after it, which is empty if there is no slash. -/
def splitSlash (cs : List Char) : List Char × List Char :=
  (Text.splitOnce ['/'] cs).getD (cs, [])

/-- The location that `gs://bucket/object/name` describes; the scheme may be missing. -/
def Location.parse (path : String) : Except Error Location :=
  let rest := match Text.splitOnce [':', '/', '/'] path.toList with
    | some (_, rest) => rest
    | none => path.toList
  let (bucket, object) := splitSlash rest
  if bucket = [] then .error (.invalidObjectPath path)
  else .ok ⟨String.ofList bucket, String.ofList object⟩

end PathSeal.KeyMap
