import Mathlib.Data.List.TakeWhile
import DebridCache.Proofs.Wire.Request
import DebridCache.Proofs.Wire.Segments

/-!
Texts behind an endpoint. Such a text belongs to the path up to its first mark of a query or a fragment.
What its dot segments leave of the endpoint's own segments decides where a request goes; other texts
stay behind the endpoint.
-/

namespace DebridCache.Wire

/-- What belongs to the path: all before the marks of a fragment and of a query. -/
def pathPart (cs : List Char) : List Char :=
  (cs.takeWhile fun c => c ≠ '#').takeWhile fun c => c ≠ '?'

def afterScheme : List Char → List Char
  | ':' :: '/' :: '/' :: rest => rest
  | _ :: rest => afterScheme rest
  | [] => []

/-- The path of an absolute address: what follows the server's name. -/
def urlPath (url : String) : List Char :=
  (afterScheme (pathPart url.toList)).dropWhile fun c => c ≠ '/'

/-- An address at a server: after the server's name there is nothing, or the mark of a path, of a query or
of a fragment, so that the name ends there. -/
def AtServer (origin url : String) : Prop :=
  ∃ rest, url.toList = origin.toList ++ rest ∧ ∀ c ∈ rest.head?, c = '/' ∨ c = '?' ∨ c = '#'

/-- Resolving a text behind an endpoint leaves the endpoint's own segments in their place. -/
def Stays (base text : String) : Prop :=
  Leads (segments base.toList)
    (resolveSegments (segments base.toList ++ segments (pathPart text.toList)))

instance (base text : String) : Decidable (Stays base text) :=
  inferInstanceAs (Decidable (Leads _ _))

/-- A text that nowhere climbs above its start and ends below it. -/
def Descends (text : List Char) : Prop :=
  ∃ depth, (segments (pathPart text)).foldlM deeper? 0 = some (depth + 1)

/-- A request whose path is an endpoint with a caller's text behind it. It goes to its own server, and
below the endpoint just if the text stays there. -/
structure Spliced (site : Site) (base text : String) (sent : Sent) : Prop where
  server : AtServer site.origin sent.url
  path : urlPath sent.url = escapePath (resolvePath (pathPart (base ++ "/" ++ text).toList))
  below_iff : (base ++ "/").toList <+: urlPath sent.url ↔ Stays base text
  below : Descends text.toList → (base ++ "/").toList <+: urlPath sent.url

section Behind

theorem Descends.stays {base text : String}
    (still : ∀ s ∈ segments base.toList, isHere s = false ∧ isUp s = false)
    (descends : Descends text.toList) : Stays base text := by
  obtain ⟨depth, goes⟩ := descends
  have based : (segments base.toList).reverse ≠ [] := by simp [segments_ne_nil]
  obtain ⟨above, folded, deep⟩ := foldl_deeper based _ [] goes
  have resolved : resolveSegments (segments base.toList ++ segments (pathPart text.toList)) =
      segments base.toList ++ above.reverse := by
    rw [resolveSegments, List.foldl_append, foldl_still still, List.append_nil,
      ← List.nil_append (segments base.toList).reverse, folded, List.reverse_append,
      List.reverse_reverse]
  rw [Stays, resolved]
  refine ⟨List.prefix_append _ _, ?_⟩
  rw [List.length_append, List.length_reverse, deep]
  omega

theorem descends_of_still {text : List Char}
    (still : ∀ s ∈ segments (pathPart text), isHere s = false ∧ isUp s = false) : Descends text := by
  have some := List.length_pos_iff.mpr (segments_ne_nil (pathPart text))
  refine ⟨(segments (pathPart text)).length - 1, ?_⟩
  rw [foldlM_still still]
  congr 1
  omega

theorem pathPart_append {before : List Char} (bare : '?' ∉ before ∧ '#' ∉ before) (after : List Char) :
    pathPart (before ++ after) = before ++ pathPart after := by
  have differs {mark : Char} (absent : mark ∉ before) : ∀ c ∈ before, decide (c ≠ mark) = true := by
    intro c member
    exact decide_eq_true fun same => absent (same ▸ member)
  rw [pathPart, List.takeWhile_append_of_pos (differs bare.2),
    List.takeWhile_append_of_pos (differs bare.1), pathPart]

theorem pathPart_bare {cs : List Char} (bare : '?' ∉ cs ∧ '#' ∉ cs) : pathPart cs = cs := by
  simpa [pathPart] using pathPart_append bare []

theorem bare_of_plain {cs : List Char} (plain : ∀ c ∈ cs, IsPathChar c) : '?' ∉ cs ∧ '#' ∉ cs :=
  ⟨fun member => (plain '?' member).2.2 (by decide), fun member => (plain '#' member).2.2 (by decide)⟩

theorem pathPart_marked {before : List Char} (marked : '?' ∈ before ∨ '#' ∈ before) (after : List Char) :
    pathPart (before ++ after) = pathPart before := by
  have stops {mark : Char} {cs : List Char} (held : mark ∈ cs) (rest : List Char) :
      ((cs ++ rest).takeWhile fun c => decide (c ≠ mark)) = cs.takeWhile fun c => decide (c ≠ mark) := by
    rw [List.takeWhile_append, if_neg]
    intro full
    have part : (cs.takeWhile fun c => decide (c ≠ mark)) <+: cs := List.takeWhile_prefix _
    have held' : mark ∈ cs.takeWhile fun c => decide (c ≠ mark) := (part.eq_of_length full).symm ▸ held
    simpa using List.all_eq_true.mp List.all_takeWhile mark held'
  by_cases fragment : '#' ∈ before
  · rw [pathPart, stops fragment, pathPart]
  · have query := marked.resolve_right fragment
    have past : ∀ c ∈ before, decide (c ≠ '#') = true := fun c member =>
      decide_eq_true fun same => fragment (same ▸ member)
    rw [pathPart, List.takeWhile_append_of_pos past, stops query, pathPart,
      List.takeWhile_eq_self_iff.mpr past]

theorem descends_append {first rest : List Char} (above : Descends first) (below : Descends rest) :
    Descends (first ++ '/' :: rest) := by
  by_cases marked : '?' ∈ first ∨ '#' ∈ first
  · unfold Descends
    rw [pathPart_marked marked]
    exact above
  · have bare := not_or.mp marked
    obtain ⟨depth, goes⟩ := above
    obtain ⟨more, goesOn⟩ := below
    have slash : '?' ∉ ['/'] ∧ '#' ∉ ['/'] := by decide
    have behind : pathPart ('/' :: rest) = '/' :: pathPart rest := pathPart_append slash rest
    rw [pathPart_bare bare] at goes
    refine ⟨depth + 1 + more, ?_⟩
    rw [pathPart_append bare, behind, segments_append_slash, List.foldlM_append, goes]
    have joined := foldlM_deeper_add _ goesOn (depth + 1)
    rw [Nat.zero_add] at joined
    refine joined.trans ?_
    congr 1
    omega

/-- Texts that descend descend also one behind another. -/
theorem descends_intercalate {parts : List (List Char)} (each : ∀ cs ∈ parts, Descends cs) :
    Descends (['/'].intercalate parts) := by
  induction parts with
  | nil => exact ⟨0, rfl⟩
  | cons cs parts ih =>
      have first := each cs List.mem_cons_self
      cases parts with
      | nil => rwa [List.intercalate_singleton]
      | cons next others =>
          rw [List.intercalate_cons_cons, List.append_assoc]
          exact descends_append first (ih fun cs later => each cs (List.mem_cons_of_mem _ later))

/-- An endpoint of plain characters that begins with a slash. -/
structure IsEndpoint (base : String) : Prop where
  rooted : ∃ rest, base.toList = '/' :: rest
  still : ∀ s ∈ segments base.toList, isHere s = false ∧ isUp s = false
  bare : ∀ c ∈ base.toList, IsPathChar c ∧ c ≠ '%'

theorem isEndpoint_iff {base : String} : IsEndpoint base ↔ base.toList.head? = some '/' ∧
    (segments base.toList).all (fun s => !isHere s && !isUp s) = true ∧
    base.toList.all (fun c => decide (IsPathChar c ∧ c ≠ '%')) = true := by
  constructor
  · rintro ⟨rooted, still, bare⟩
    exact ⟨List.head?_eq_some_iff.mpr rooted, List.all_eq_true.mpr (by simpa using still),
      List.all_eq_true.mpr fun c member => decide_eq_true (bare c member)⟩
  · rintro ⟨rooted, still, bare⟩
    exact ⟨List.head?_eq_some_iff.mp rooted, by simpa using List.all_eq_true.mp still, forall_of_all bare⟩

instance (base : String) : Decidable (IsEndpoint base) := decidable_of_iff _ isEndpoint_iff.symm

variable {base : String}

theorem IsEndpoint.pathPart (fixed : IsEndpoint base) (text : String) :
    pathPart (base ++ "/" ++ text).toList = base.toList ++ '/' :: pathPart text.toList := by
  have plain : ∀ c ∈ (base ++ "/").toList, IsPathChar c := by
    intro c member
    rw [String.toList_append] at member
    rcases List.mem_append.mp member with own | last
    · exact (fixed.bare c own).1
    · rw [List.mem_singleton.mp last]
      decide
  rw [String.toList_append, pathPart_append (bare_of_plain plain), String.toList_append, List.append_assoc]
  rfl

/-- The segments of a resolved path behind an endpoint: the empty one first, and then some of those that
were there. -/
theorem IsEndpoint.resolved (fixed : IsEndpoint base) (text : String) : ∃ rest,
    resolveSegments (segments base.toList ++ segments (Wire.pathPart text.toList)) = [] :: rest ∧
      rest ⊆ (segments base.toList).tail ++ segments (Wire.pathPart text.toList) ∧
      escapePath (resolvePath (Wire.pathPart (base ++ "/" ++ text).toList)) =
        joinSegments ([] :: rest.map escapePath) := by
  obtain ⟨own, rooted⟩ := fixed.rooted
  have first : segments base.toList = [] :: segments own := by
    rw [rooted]
    rfl
  obtain ⟨rest, resolved, inside⟩ := resolveSegments_rooted (segments own ++ segments (Wire.pathPart text.toList))
  rw [← List.cons_append, ← first] at resolved
  refine ⟨rest, resolved, by rwa [first], ?_⟩
  rw [fixed.pathPart, resolvePath_eq, segments_append_slash, resolved, escapePath_joinSegments]
  rfl

/-- A path is below an endpoint just if the text behind the endpoint stays there. -/
theorem IsEndpoint.leads_iff (fixed : IsEndpoint base) (text : String) :
    (base ++ "/").toList <+: escapePath (resolvePath (Wire.pathPart (base ++ "/" ++ text).toList)) ↔
      Stays base text := by
  obtain ⟨rest, resolved, inside, path⟩ := fixed.resolved text
  have whole : ∀ s ∈ segments base.toList, '/' ∉ s := fun s => slash_not_mem_segments
  have wholes : ∀ s ∈ [] :: rest.map escapePath, '/' ∉ s := by
    intro s member
    rcases List.mem_cons.mp member with rfl | later
    · exact List.not_mem_nil
    · obtain ⟨t, kept, rfl⟩ := List.mem_map.mp later
      apply slash_not_mem_escapePath
      rcases List.mem_append.mp (inside kept) with own | added
      · exact whole t (List.mem_of_mem_tail own)
      · exact slash_not_mem_segments added
  have front : (base ++ "/").toList = joinSegments (segments base.toList) ++ ['/'] := by
    rw [joinSegments_segments, String.toList_append]
    rfl
  have bare : ∀ s ∈ segments base.toList, ∀ c ∈ s, IsPathChar c ∧ c ≠ '%' :=
    fun s segment c member => fixed.bare c (mem_of_mem_segments segment member).1
  have escaped : [] :: rest.map escapePath = ([] :: rest).map escapePath := rfl
  rw [path, front, joinSegments_leads_iff (segments_ne_nil _) whole wholes, escaped,
    leads_escaped_iff bare, Stays, resolved]

theorem IsEndpoint.segments_still (fixed : IsEndpoint base) {text : String}
    (bare : '?' ∉ text.toList ∧ '#' ∉ text.toList)
    (still : ∀ s ∈ segments text.toList, isHere s = false ∧ isUp s = false) :
    segments (escapePath (resolvePath (Wire.pathPart (base ++ "/" ++ text).toList))) =
      (segments base.toList ++ segments text.toList).map escapePath := by
  have every : ∀ s ∈ segments base.toList ++ segments text.toList, isHere s = false ∧ isUp s = false :=
    fun s member => (List.mem_append.mp member).elim (fixed.still s) (still s)
  have whole : ∀ s ∈ (segments base.toList ++ segments text.toList).map escapePath, '/' ∉ s := by
    intro s member
    obtain ⟨t, inside, rfl⟩ := List.mem_map.mp member
    exact slash_not_mem_escapePath
      ((List.mem_append.mp inside).elim slash_not_mem_segments slash_not_mem_segments)
  rw [fixed.pathPart, pathPart_bare bare, resolvePath_eq, segments_append_slash,
    resolveSegments_still every, escapePath_joinSegments,
    segments_joinSegments (by simp [segments_ne_nil]) whole]

end Behind

section Url

theorem cut_fst (mark : Char) (cs : List Char) : (cut mark cs).1 = cs.takeWhile fun c => c ≠ mark := by
  induction cs with
  | nil => rfl
  | cons c cs ih =>
      rw [cut, List.takeWhile_cons]
      by_cases same : c = mark
      · simp [same]
      · simp [same, ih]

theorem cuts_eq_pathPart (cs : List Char) : (cut '?' (cut '#' cs).1).1 = pathPart cs := by
  rw [cut_fst, cut_fst, pathPart]

theorem path_of_ofEndpoint {site : Site} {endpoint : String} {a : Address}
    (made : Address.ofEndpoint site endpoint = .ok a) :
    a.path = escapePath (resolvePath (pathPart (site.root ++ endpoint).toList)) := by
  rw [← cuts_eq_pathPart]
  simp only [Address.ofEndpoint] at made
  split_ifs at made
  cases made
  rfl

/-- After the path of an address there is nothing or a mark. -/
theorem render_eq (site : Site) (a : Address) : ∃ tail,
    (a.render site).toList = site.origin.toList ++ (a.path ++ tail) ∧ pathPart tail = [] ∧
      ∀ c ∈ tail.head?, c = '?' ∨ c = '#' := by
  obtain ⟨path, query, fragment⟩ := a
  cases query with
  | none =>
      cases fragment with
      | none => exact ⟨[], by simp [Address.render], rfl, by simp⟩
      | some f => exact ⟨'#' :: f, by simp [Address.render], rfl, by simp⟩
  | some q =>
      cases fragment with
      | none => exact ⟨'?' :: q, by simp [Address.render], rfl, by simp⟩
      | some f => exact ⟨'?' :: (q ++ '#' :: f), by simp [Address.render], rfl, by simp⟩

theorem render_of_prepare {r : Request} {sent : Sent} (prepared : r.prepare = .ok sent) :
    ∃ address : Address, sent.url = address.render r.site ∧
      address.path = escapePath (resolvePath (pathPart (r.site.root ++ r.endpoint).toList)) := by
  unfold Request.prepare at prepared
  obtain ⟨address, made, prepared⟩ := ok_of_bind_ok prepared
  obtain ⟨-, -, prepared⟩ := ok_of_bind_ok prepared
  have path := path_of_ofEndpoint made
  dsimp only at prepared
  split at prepared
  · obtain ⟨full, filled, prepared⟩ := ok_of_bind_ok prepared
    cases prepared
    refine ⟨full, rfl, ?_⟩
    simp only [Address.withFields] at filled
    split_ifs at filled
    cases filled
    exact path
  · cases prepared
    exact ⟨address, rfl, path⟩

/-- Dot segments can leave nothing of a path, but what they leave begins with a slash. -/
theorem Site.path_rooted (site : Site) (endpoint : String) :
    ∃ ss, escapePath (resolvePath (pathPart (site.root ++ endpoint).toList)) = joinSegments ([] :: ss) := by
  obtain ⟨own, rooted⟩ := List.head?_eq_some_iff.mp site.rooted
  have slash : '?' ∉ ['/'] ∧ '#' ∉ ['/'] := by decide
  have behind : pathPart (site.root ++ endpoint).toList = '/' :: pathPart (own ++ endpoint.toList) := by
    rw [String.toList_append, rooted]
    exact pathPart_append slash _
  obtain ⟨rest, resolved, -⟩ := resolveSegments_rooted (segments (pathPart (own ++ endpoint.toList)))
  have first : segments ('/' :: pathPart (own ++ endpoint.toList)) =
      [] :: segments (pathPart (own ++ endpoint.toList)) := if_pos rfl
  refine ⟨rest.map escapePath, ?_⟩
  rw [behind, resolvePath_eq, first, resolved, escapePath_joinSegments]
  rfl

/-- Whatever its endpoint is, a request goes to the server of its site. -/
theorem atServer_of_prepare {r : Request} {sent : Sent} (prepared : r.prepare = .ok sent) :
    AtServer r.site.origin sent.url := by
  obtain ⟨address, url, path⟩ := render_of_prepare prepared
  obtain ⟨ss, joined⟩ := r.site.path_rooted r.endpoint
  obtain ⟨tail, rendered, -, marks⟩ := render_eq r.site address
  refine ⟨address.path ++ tail, url ▸ rendered, ?_⟩
  rw [path, joined]
  cases ss with
  | nil => exact fun c first => .inr (marks c first)
  | cons s ss =>
      intro c first
      exact .inl (Option.some.inj first).symm

/-- A site whose server is named without any of the marks that end a name. -/
structure Site.Served (site : Site) : Prop where
  host : ∃ host, site.origin.toList = "https://".toList ++ host ∧ ∀ c ∈ host, c ≠ '/' ∧ c ≠ '?' ∧ c ≠ '#'

theorem Site.Served.urlPath {site : Site} (served : site.Served) {a : Address}
    (rooted : ∃ ss, a.path = joinSegments ([] :: ss)) (bare : '?' ∉ a.path ∧ '#' ∉ a.path) :
    urlPath (a.render site) = a.path := by
  obtain ⟨host, origin, named⟩ := served.host
  obtain ⟨tail, rendered, ended, -⟩ := render_eq site a
  have server : '?' ∉ site.origin.toList ∧ '#' ∉ site.origin.toList := by
    have scheme : '?' ∉ "https://".toList ∧ '#' ∉ "https://".toList := by decide
    simp only [origin, List.mem_append, not_or]
    exact ⟨⟨scheme.1, fun own => (named '?' own).2.1 rfl⟩, scheme.2, fun own => (named '#' own).2.2 rfl⟩
  have past : (host ++ a.path).dropWhile (fun c => c ≠ '/') = a.path := by
    rw [List.dropWhile_append_of_pos fun c member => decide_eq_true (named c member).1]
    obtain ⟨ss, path⟩ := rooted
    rw [path]
    cases ss <;> rfl
  rw [Wire.urlPath, rendered, pathPart_append server, pathPart_append bare, ended, List.append_nil,
    origin, List.append_assoc]
  exact past

theorem plain_escapePath {cs : List Char} : ∀ c ∈ escapePath cs, IsPathChar c := by
  have marks : ∀ c ∈ percentMarks, IsPathChar c := forall_of_all (by decide)
  intro c member
  rcases mem_escapePath member with ⟨-, plain⟩ | mark
  · exact plain
  · exact marks c mark

theorem spliced_of_prepare {r : Request} {sent : Sent} (prepared : r.prepare = .ok sent)
    (served : r.site.Served) {base start text : String} (fixed : IsEndpoint base)
    (behind : r.endpoint = start ++ text) (made : r.site.root ++ start = base ++ "/") :
    Spliced r.site base text sent := by
  obtain ⟨address, url, path⟩ := render_of_prepare prepared
  obtain ⟨rest, -, -, joined⟩ := fixed.resolved text
  rw [behind, ← String.append_assoc, made] at path
  have whole : urlPath sent.url = address.path := by
    rw [url]
    exact served.urlPath ⟨_, path.trans joined⟩ (bare_of_plain (path ▸ plain_escapePath))
  have below_iff := fixed.leads_iff text
  rw [← path, ← whole] at below_iff
  exact ⟨atServer_of_prepare prepared, whole.trans path, below_iff, fun descends =>
    below_iff.mpr (descends.stays fixed.still)⟩

end Url

end DebridCache.Wire
