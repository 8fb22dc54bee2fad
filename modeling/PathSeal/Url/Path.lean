import PathSeal.Text.Split
import PathSeal.Url.Percent

/-!
# PathSeal.Url.Path

Paths in their normal form: segments that are one or two dots are resolved, and
everything that may not stand for itself is encoded.

Two dots do not lead out of a segment that names a drive, such as `c:`. In the
URL of a file the first segment may also be written `c|`, and empty segments do
not count before the first one that is not empty.
-/

namespace PathSeal.Url

/-- What a URL is by its scheme. The special ones have a host and treat a backslash like a slash;
so do those of files, which may also be without a host. -/
inductive Kind where
  | file
  | special (port : Nat)
  | plain
deriving DecidableEq

/-- Whether the scheme is a special one. -/
def Kind.isSpecial : Kind → Bool
  | file | special _ => true
  | plain => false

/-- Whether a character separates segments. -/
def Kind.isSlash (kind : Kind) (c : Char) : Bool :=
  c == '/' || (kind.isSpecial && c == '\\')

/-- Whether a character ends a path. -/
def endsPath (c : Char) : Bool :=
  c == '?' || c == '#'

/-- The characters before the first one of a kind, and those from it on. -/
def spanUntil (stop : Char → Bool) (cs : List Char) : List Char × List Char :=
  cs.span (fun c => !stop c)

/-- Whether a segment names a drive: a letter and a colon or a vertical line. -/
def isDrive : List Char → Bool
  | [letter, c] => letter.isAlpha && (c == ':' || c == '|')
  | _ => false

/-- A path segment with its encoded dots decoded. -/
def plainDots : List Char → List Char
  | '%' :: '2' :: 'e' :: cs | '%' :: '2' :: 'E' :: cs => '.' :: plainDots cs
  | c :: cs => c :: plainDots cs
  | [] => []

/-- The segments without the last one, given in reverse, unless it names a drive. -/
def parent : List (List Char) → List (List Char)
  | [] => []
  | segment :: rest => if isDrive segment then segment :: rest else rest

/-- A segment after others, given in reverse; the first of a file may name a drive. -/
def Kind.push (kind : Kind) (taken : List (List Char)) (segment : List Char) : List (List Char) :=
  match kind, taken, segment with
  | .file, [], [letter, _] => if isDrive segment then [[letter, ':']] else [segment]
  | _, taken, segment => segment :: taken

/-- Resolves segments that are one or two dots, with the segments so far in reverse. A path that
ends in one of these ends in a slash. -/
def Kind.resolved (kind : Kind) (taken : List (List Char)) : List (List Char) → List (List Char)
  | [] => taken.reverse
  | segment :: rest =>
    let dots := plainDots segment
    if dots = ['.'] then kind.resolved (if rest = [] then [] :: taken else taken) rest
    else if dots = ['.', '.'] then
      kind.resolved (if rest = [] then [] :: parent taken else parent taken) rest
    else kind.resolved (kind.push taken segment) rest

/-- The resolved segments of a path. -/
def Kind.segments (kind : Kind) (cs : List Char) : List (List Char) :=
  kind.resolved [] ((Text.fields kind.isSlash cs).map (encoded inPath))

/-- The segments of a file's path, which begins with no empty one unless all are empty. -/
def withoutEmpty (segments : List (List Char)) : List (List Char) :=
  match segments.dropWhile (· == []) with
  | [] => [[]]
  | segments => segments

/-- Segments with slashes before them. -/
def joined (segments : List (List Char)) : List Char :=
  segments.flatMap ('/' :: ·)

/-- The normal form of the path that follows an authority. -/
def Kind.path (kind : Kind) (cs : List Char) : List Char :=
  match cs with
  | [] => if kind.isSpecial then ['/'] else []
  | c :: rest => joined (kind.segments (if kind.isSlash c then rest else c :: rest))

/-- The normal form of a query and a fragment with their marks. -/
def normalTail (special : Bool) (cs : List Char) : List Char :=
  let (query, fragment) := spanUntil (· == '#') cs
  let query := match query with
    | '?' :: q => '?' :: encoded (inQuery special) q
    | q => q
  let fragment := match fragment with
    | '#' :: f => '#' :: encoded inFragment f
    | f => f
  query ++ fragment

end PathSeal.Url
