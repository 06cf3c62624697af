import DebridCache.Fault
import DebridCache.Wire.Form

/-!
Addresses of requests: a site and the text that a caller's endpoint adds to it. The text is split into
path, query and fragment, dot segments of the path are resolved, and only then is it escaped; a path
can so climb above the endpoint it started from, though never above the site.
-/

namespace DebridCache.Wire

structure Site where
  origin : String
  root : String
  rooted : root.toList.head? = some '/'
  deriving DecidableEq, Repr

instance : Inhabited Site := ⟨⟨"", "/", rfl⟩⟩

def Site.base (site : Site) : String := site.origin ++ site.root

structure Address where
  path : List Char
  query : Option (List Char)
  fragment : Option (List Char)
  deriving DecidableEq, Repr, Inhabited

/-- The longest address, and the longest part of one. -/
def longest : Nat := 65536

def isControl (c : Char) : Bool := c.toNat < 0x20 || c.toNat = 0x7F

def cut (mark : Char) : List Char → List Char × Option (List Char)
  | [] => ([], none)
  | c :: cs =>
    if c = mark then ([], some cs)
    else
      let (before, after) := cut mark cs
      (c :: before, after)

def segments : List Char → List (List Char)
  | [] => [[]]
  | c :: cs =>
    if c = '/' then [] :: segments cs
    else
      match segments cs with
      | [] => [[c]]
      | s :: ss => (c :: s) :: ss

def joinSegments : List (List Char) → List Char
  | [] => []
  | [s] => s
  | s :: ss => s ++ '/' :: joinSegments ss

def isHere (segment : List Char) : Bool := segment = ['.']

def isUp (segment : List Char) : Bool := segment = ['.', '.']

/-- One segment onto those kept so far, nearest first: a dot is dropped and two dots drop the segment
before, but not the empty one that a leading slash makes. -/
def resolveSegment (kept : List (List Char)) (segment : List Char) : List (List Char) :=
  if isHere segment then kept
  else if isUp segment then
    match kept with
    | [] => []
    | [[]] => [[]]
    | _ :: rest => rest
  else segment :: kept

def resolveSegments (ss : List (List Char)) : List (List Char) :=
  (ss.foldl resolveSegment []).reverse

def resolvePath (path : List Char) : List Char :=
  let ss := segments path
  if ss.any (fun s => isHere s || isUp s) then joinSegments (resolveSegments ss) else path

namespace Address

def controlIn (cs : List Char) : Fault :=
  .badAddress ("Invalid non-printable ASCII character in URL, " ++
    String.ofList ((cs.find? isControl).elim [] fun c => Value.quotedString (String.singleton c)) ++
    " at position " ++ toString (cs.findIdx isControl) ++ ".")

def ofEndpoint (site : Site) (endpoint : String) : Except Fault Address :=
  let whole := (site.base ++ endpoint).toList
  if longest < whole.length then .error (.badAddress "URL too long")
  else if whole.any isControl then .error (controlIn whole)
  else
    let (beforeFragment, fragment) := cut '#' (site.root ++ endpoint).toList
    let (path, query) := cut '?' beforeFragment
    .ok {
      path := escapePath (resolvePath path)
      query := query.map escapeQuery
      fragment := fragment.map escapeFragment }

def partTooLong (name : String) : Fault := .badAddress ("URL component '" ++ name ++ "' too long")

/-- Fields take the place of the query; no part may then be too long. -/
def withFields (a : Address) (fields : Fields) : Except Fault Address :=
  let query := encodeFields fields
  if longest < a.path.length then .error (partTooLong "path")
  else if longest < query.length then .error (partTooLong "query")
  else if longest < (a.fragment.getD []).length then .error (partTooLong "fragment")
  else .ok { a with query := some query }

/-- A part that is there keeps its mark even when it is empty. -/
def render (site : Site) (a : Address) : String :=
  String.ofList (site.origin.toList ++ a.path ++
    (match a.query with
      | some q => '?' :: q
      | none => []) ++
    (match a.fragment with
      | some f => '#' :: f
      | none => []))

end Address
end DebridCache.Wire
