import PathSeal.KeyMap.Scope

/-!
# PathSeal.KeyMap.Mapping

The routing table from object paths to master keys. It is read from a list of
entries `<bucket>[/<folder>]:<key>` with commas between them; `*:<key>` gives
one key for everything.

A global key overrides all entries. Otherwise the entry with the longest folder
that covers the object wins.
-/

namespace PathSeal

/-- A routing table from object paths to master keys. -/
structure KeyMap where
  globalKey : Option Key.Handle
  entries : List (KeyMap.Scope × Key.Handle)
deriving DecidableEq

namespace KeyMap

/-- The bucket name that stands for everything. -/
def globalBucket : String := "*"

/-- The table that sends every object to one key. -/
def always (key : Key.Handle) : KeyMap := ⟨some key, []⟩

/-! ## Reading -/

/-- Splits an entry at its first colon; neither side may be blank. -/
def splitEntry (entry : List Char) : Except Error (List Char × List Char) :=
  match Text.splitOnce [':'] entry with
  | some (scope, key) =>
    let scope := Text.trimChars scope
    let key := Text.trimChars key
    if scope = [] ∨ key = [] then .error (.malformedEntry (String.ofList entry))
    else .ok (scope, key)
  | none => .error (.malformedEntry (String.ofList entry))

/-- Adds an entry to a table; no scope may be mapped twice. -/
def addEntry (map : KeyMap) (entry : List Char) : Except Error KeyMap := do
  let (scope, key) ← splitEntry entry
  let key ← match Key.Handle.ofTrimmed key with
    | .ok key => pure key
    | .error cause => throw (.invalidKey (String.ofList entry) cause)
  if String.ofList scope = globalBucket then
    if map.globalKey.isSome then throw (.duplicateScope globalBucket)
    return { map with globalKey := some key }
  else
    let scope := Scope.parse scope
    if map.entries.any (·.1 == scope) then throw (.duplicateScope scope.text)
    return { map with entries := map.entries ++ [(scope, key)] }

/-- The entries of a mapping text: blank ones do not count. -/
def entryTexts (s : String) : List (List Char) :=
  ((Text.fields (· == ',') s.toList).map Text.trimChars).filter (· ≠ [])

/-- The table that a mapping text describes. -/
def parse (s : String) : Except Error KeyMap := do
  let map ← (entryTexts s).foldlM addEntry ⟨none, []⟩
  if map.globalKey = none ∧ map.entries = [] then throw .empty
  return map

/-! ## Looking up -/

/-- Of two entries the one with the longer folder; of equally long ones the later. -/
def preferLonger (best : Option (Scope × Key.Handle)) (entry : Scope × Key.Handle) :
    Option (Scope × Key.Handle) :=
  match best with
  | some b => if b.1.folder.utf8ByteSize ≤ entry.1.folder.utf8ByteSize then some entry else some b
  | none => some entry

/-- The entry for a location. -/
def select (entries : List (Scope × Key.Handle)) (l : Location) : Option (Scope × Key.Handle) :=
  (entries.filter (·.1.contains l)).foldl preferLonger none

/-- The master key of an object path. -/
def resolve (map : KeyMap) (path : String) : Except Error Key.Handle :=
  match map.globalKey with
  | some key => .ok key
  | none => do
    let l ← Location.parse path
    match select map.entries l with
    | some entry => return entry.2
    | none => throw (.unmapped l.bucket)

/-- Appends what is not there yet. -/
def addNew (seen : List Key.Handle) (key : Key.Handle) : List Key.Handle :=
  if key ∈ seen then seen else seen ++ [key]

/-- Every key that the table can give, each once, in the order of configuration. -/
def handles (map : KeyMap) : List Key.Handle :=
  (map.globalKey.toList ++ map.entries.map (·.2)).foldl addNew []

end KeyMap
end PathSeal
