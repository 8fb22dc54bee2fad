import PathSeal.KeyMap.Location

/-!
# PathSeal.KeyMap.Scope

The part of a bucket that an entry of a mapping covers: the whole bucket or the
objects below a folder, in whole path segments.
-/

namespace PathSeal.KeyMap

/-- A bucket, or a folder in it without slashes around it. -/
structure Scope where
  bucket : String
  /-- Empty for the whole bucket. -/
  folder : String
deriving DecidableEq

namespace Scope

/-- The scope that a text describes: what follows the first slash is the folder. -/
def parse (cs : List Char) : Scope :=
  let (bucket, folder) := splitSlash cs
  ⟨String.ofList bucket, String.ofList (Text.stripEnds (· == '/') folder)⟩

/-- Whether an object name is the folder itself or lies below it. -/
def covers (folder object : List Char) : Bool :=
  match Text.dropPrefix? folder object with
  | some [] => true
  | some (c :: _) => c == '/'
  | none => false

/-- Whether a scope covers a location. -/
def contains (s : Scope) (l : Location) : Bool :=
  s.bucket == l.bucket && (s.folder.isEmpty || covers s.folder.toList l.object.toList)

/-- The scope as a mapping would write it. -/
def text (s : Scope) : String :=
  if s.folder.isEmpty then s.bucket else s!"{s.bucket}/{s.folder}"

end Scope
end PathSeal.KeyMap
