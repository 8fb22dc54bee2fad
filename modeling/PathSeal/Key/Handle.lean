import PathSeal.Text.Blank
import PathSeal.Text.Split
import PathSeal.Text.Quoted

/-!
# PathSeal.Key.Handle

Handles name master keys by a URI such as
`gcp-kms://projects/p/locations/global/keyRings/r/cryptoKeys/k`. The scheme
says which key management service holds the key; a name without a scheme is a
Cloud KMS key.
-/

namespace PathSeal.Key

/-- The kinds of key management service. -/
inductive Scheme where
  | gcp
  | aws
  | inProcess
deriving DecidableEq

/-- The scheme as it is written in a URI. -/
def Scheme.name : Scheme → String
  | gcp => "gcp-kms"
  | aws => "aws-kms"
  | inProcess => "local-kms"

/-- The scheme that is written so. -/
def Scheme.ofName? (name : String) : Option Scheme :=
  [gcp, aws, inProcess].find? (·.name == name)

/-- The name of a master key: its scheme and what the service calls it. -/
structure Handle where
  scheme : Scheme
  resource : String
deriving DecidableEq

/-- Why a text names no master key. -/
inductive HandleError where
  | empty
  | unknownScheme (scheme : String)
  | missingResource (handle : String)
deriving DecidableEq

/-- The text of a handle fault. -/
def HandleError.message : HandleError → String
  | empty => "master key handle must not be empty"
  | unknownScheme scheme =>
    s!"unsupported KMS scheme {Text.quoted scheme}; expected gcp-kms, aws-kms or local-kms"
  | missingResource handle =>
    s!"master key handle {Text.quoted handle} has no key resource after the scheme"

namespace Handle

/-- What stands between scheme and resource. -/
def separator : List Char := [':', '/', '/']

/-- The URI of a handle. -/
def uri (h : Handle) : String :=
  s!"{h.scheme.name}://{h.resource}"

instance : ToString Handle := ⟨uri⟩

/-- The handle of a text without surrounding white space. -/
def ofTrimmed (cs : List Char) : Except HandleError Handle :=
  if cs = [] then .error .empty
  else match Text.splitOnce separator cs with
    | none => .ok ⟨.gcp, String.ofList cs⟩
    | some (before, resource) =>
      match Scheme.ofName? (String.ofList before) with
      | none => .error (.unknownScheme (String.ofList before))
      | some scheme =>
        if resource = [] then .error (.missingResource (String.ofList cs))
        else .ok ⟨scheme, String.ofList resource⟩

/-- The handle that a text names; white space around it does not count. -/
def parse (s : String) : Except HandleError Handle :=
  ofTrimmed (Text.trimChars s.toList)

end Handle
end PathSeal.Key
