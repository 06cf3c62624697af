import DebridCache.Value.Text

/-!
Titles: films and series, and the two identifiers by which one is known.
-/

namespace DebridCache

inductive MediaKind where
  | movie
  | series
  deriving DecidableEq, Repr, Inhabited

namespace MediaKind

def key : MediaKind → String
  | .movie => "movie"
  | .series => "series"

def mediaType : MediaKind → String
  | .movie => "movie"
  | .series => "tv"

def text : MediaKind → String
  | .movie => "MediaKind.MOVIE"
  | .series => "MediaKind.SERIES"

def ofKey? : String → Option MediaKind
  | "movie" => some .movie
  | "series" => some .series
  | _ => none

def unnamed (v : Value) : Fault := .unknownName (String.ofList v.quoted ++ " is not a valid MediaKind")

def named (v : Value) : Except Fault MediaKind :=
  match v with
  | .str s =>
    match ofKey? s with
    | some k => .ok k
    | none => .error (unnamed v)
  | _ => .error (unnamed v)

/-- The kind that a value tells: none if it counts as false, and a film unless it says series. -/
def parse (v : Value) : Option MediaKind :=
  if v.truthy then
    match v with
    | .str "series" => some .series
    | _ => some .movie
  else none

end MediaKind

/-- What stands for the kind of a title: a kind, or any other value that a caller gave. -/
inductive KindLabel where
  | kind (k : MediaKind)
  | other (v : Value)
  deriving Repr, Inhabited

namespace KindLabel

def unknown : KindLabel := .other .null

def ofKind? : Option MediaKind → KindLabel
  | some k => .kind k
  | none => unknown

def truthy : KindLabel → Bool
  | .kind _ => true
  | .other v => v.truthy

def parse : KindLabel → Option MediaKind
  | .kind k => some k
  | .other v => MediaKind.parse v

def quoted : KindLabel → List Char
  | .kind k => '<' :: (k.text.toList ++ [':', ' '] ++ Value.quotedString k.key ++ ['>'])
  | .other v => v.quoted

def spell : KindLabel → Except Fault String
  | .kind k => .ok k.text
  | .other v => v.spell

/-- The label as a value; a kind is its key. -/
def value : KindLabel → Value
  | .kind k => .str k.key
  | .other v => v

def orElse (a b : KindLabel) : KindLabel := if a.truthy then a else b

end KindLabel

/-- The identifiers of one title, of which either may be missing. -/
structure IdentifierPair where
  imdb : Value
  tmdb : Value
  kind : KindLabel
  deriving Repr, Inhabited

namespace IdentifierPair

def isComplete (p : IdentifierPair) : Bool := p.imdb.truthy && p.tmdb.truthy

def isEmpty (p : IdentifierPair) : Bool := !p.imdb.truthy && !p.tmdb.truthy

def spell (p : IdentifierPair) : Except Fault String :=
  if p.imdb.isBrief && p.tmdb.isBrief && p.kind.value.isBrief then
    .ok ("IdentifierPair(imdb_id=" ++ String.ofList p.imdb.quoted ++ ", tmdb_id=" ++
      String.ofList p.tmdb.quoted ++ ", kind=" ++ String.ofList p.kind.quoted ++ ")")
  else .error .longNumber

end IdentifierPair
end DebridCache
