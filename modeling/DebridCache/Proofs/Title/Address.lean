import DebridCache.Title
import DebridCache.Title.Database
import DebridCache.Proofs.Wire.Address

/-!
Where the title database is asked. A lookup's path has two segments after the site's own: what is looked
up, and under which name or number. If both are plain, the path is sent as it stands, with the key and
the lookup's own field in the query, unless one of them makes it too long.
-/

namespace DebridCache

def MediaKind.shelf : MediaKind → String
  | .movie => "movie"
  | .series => "tv"

theorem MediaKind.shelf_eq (kind : MediaKind) : kind.mediaType = kind.shelf := by
  cases kind <;> rfl

theorem MediaKind.shelf_plain (kind : MediaKind) : ∀ c ∈ kind.shelf.toList, Wire.IsSegmentChar c := by
  cases kind <;> exact Wire.forall_of_all (by decide)

namespace TitleDatabase

open Wire (Fields Sent IsSegmentChar)

def baseUrl : String := "https://api.themoviedb.org/3"

theorem base_site : site.base = baseUrl := rfl

def pathTo (shelf part : String) : String := "/" ++ shelf ++ "/" ++ part

def query (db : TitleDatabase) (fields : Fields) : List Char :=
  Wire.encodeFields (("api_key", db.apiKey) :: fields)

/-- Neither the address nor its query is too long to be sent. -/
def Fits (db : TitleDatabase) (path : String) (fields : Fields) : Prop :=
  (baseUrl ++ path).length ≤ Wire.longest ∧ (db.query fields).length ≤ Wire.longest

instance (db : TitleDatabase) (path : String) (fields : Fields) : Decidable (db.Fits path fields) :=
  inferInstanceAs (Decidable (_ ∧ _))

def sentTo (db : TitleDatabase) (path : String) (fields : Fields) : Sent where
  method := .get
  url := baseUrl ++ path ++ "?" ++ String.ofList (db.query fields)
  authorization := none
  contentType := none
  timeout := db.timeout
  body := ""

variable {shelf part : String}

theorem path_toList (shelf part : String) : (site.root ++ pathTo shelf part).toList =
    ['/'].intercalate [[], ['3'], shelf.toList, part.toList] := by
  rw [pathTo, String.toList_append, String.toList_append, String.toList_append, String.toList_append]
  simp only [List.intercalate, List.intersperse, List.flatten_cons, List.flatten_nil, List.append_nil]
  rw [List.append_assoc]
  rfl

theorem path_chars (kept : ∀ c ∈ shelf.toList, IsSegmentChar c)
    (plain : ∀ c ∈ part.toList, IsSegmentChar c) :
    ∀ c ∈ (site.root ++ pathTo shelf part).toList, Wire.IsPathChar c := by
  intro c member
  simp only [pathTo, String.toList_append, List.mem_append] at member
  rcases member with root | ((slash | first) | slash) | second
  · exact Wire.forall_of_all (p := Wire.IsPathChar) (by decide) c root
  · exact Wire.forall_of_all (p := Wire.IsPathChar) (by decide) c slash
  · exact (kept c first).1
  · exact Wire.forall_of_all (p := Wire.IsPathChar) (by decide) c slash
  · exact (plain c second).1

theorem path_still (kept : ∀ c ∈ shelf.toList, IsSegmentChar c)
    (plain : ∀ c ∈ part.toList, IsSegmentChar c) :
    ∀ s ∈ (site.root ++ pathTo shelf part).toList.splitOn '/',
      Wire.isHere s = false ∧ Wire.isUp s = false := by
  have segments : ∀ s ∈ [[], ['3'], shelf.toList, part.toList],
      '/' ∉ s ∧ Wire.isHere s = false ∧ Wire.isUp s = false := by
    intro s member
    simp only [List.mem_cons, List.not_mem_nil, or_false] at member
    rcases member with rfl | rfl | rfl | rfl
    · decide
    · decide
    · exact Wire.still_of_segment kept
    · exact Wire.still_of_segment plain
  rw [path_toList, List.splitOn_intercalate '/' (fun s member => (segments s member).1)
    (List.cons_ne_nil _ _)]
  exact fun s member => (segments s member).2

/-- What is too long where a plain path does not fit: the address itself, or its query. -/
def tooLong (path : String) : Fault :=
  if Wire.longest < (baseUrl ++ path).length then .badAddress "URL too long" else Wire.Address.partTooLong "query"

/-- A lookup whose path is plain is sent as it stands, or not at all where a part is too long. -/
theorem prepare_plain (db : TitleDatabase) (fields : Fields)
    (kept : ∀ c ∈ shelf.toList, IsSegmentChar c) (plain : ∀ c ∈ part.toList, IsSegmentChar c) :
    (db.request (pathTo shelf part) fields).prepare =
      if db.Fits (pathTo shelf part) fields then .ok (db.sentTo (pathTo shelf part) fields)
      else .error (tooLong (pathTo shelf part)) := by
  have origin : ∀ c ∈ site.origin.toList, Wire.isControl c = false := Wire.forall_of_all (by decide)
  have made := Wire.ofEndpoint_eq origin (path_chars kept plain) (path_still kept plain)
  have below : (site.root ++ pathTo shelf part).toList.length ≤ (site.base ++ pathTo shelf part).length := by
    rw [Wire.Site.base, String.append_assoc, String.length_append]
    exact Nat.le_add_left _ _
  unfold Wire.Request.prepare
  change (Wire.Address.ofEndpoint site (pathTo shelf part) >>= _) = _
  rw [made, base_site]
  rw [base_site] at below
  by_cases long : Wire.longest < (baseUrl ++ pathTo shelf part).length
  · have refused : ¬ db.Fits (pathTo shelf part) fields := fun fits => Nat.not_lt.mpr fits.1 long
    rw [if_pos long, if_neg refused, tooLong, if_pos long]
    rfl
  · have short := Nat.le_of_not_lt long
    rw [if_neg long]
    change (Wire.Address.withFields ⟨_, none, none⟩ (("api_key", db.apiKey) :: fields) >>= _) = _
    rw [Wire.withFields_eq (Nat.le_trans below short) rfl]
    by_cases wide : Wire.longest < (db.query fields).length
    · have refused : ¬ db.Fits (pathTo shelf part) fields := fun fits => Nat.not_lt.mpr fits.2 wide
      rw [query] at wide
      rw [if_pos wide, if_neg refused, tooLong, if_neg long]
      rfl
    · have fits : db.Fits (pathTo shelf part) fields := ⟨short, Nat.le_of_not_lt wide⟩
      rw [query] at wide
      rw [if_neg wide, if_pos fits]
      have url : Wire.Address.render site ⟨(site.root ++ pathTo shelf part).toList,
          some (db.query fields), none⟩ = (db.sentTo (pathTo shelf part) fields).url := by
        rw [Wire.render_query, String.ofList_toList, ← String.append_assoc]
        rfl
      exact congrArg (fun url => Except.ok { db.sentTo (pathTo shelf part) fields with url }) url

end TitleDatabase
end DebridCache
