import DebridCache.Proofs.Action
import DebridCache.Proofs.Availability.Inquiry
import DebridCache.Proofs.Composed
import DebridCache.Proofs.Title.Lookup
import DebridCache.Proofs.Wire.Path

/-!
Texts of a caller that become part of an address. Nothing is escaped or refused in them, so their dot
segments are resolved together with those of the endpoint: a request stays on its server, and it stays
below its endpoint just if the text does not climb out of it.
-/

namespace DebridCache

open Wire (Sent Spliced Descends)

section Sends

variable {P : Sent → Prop}

theorem Account.call_sends (a : Account) {method : Wire.Method} {endpoint : String} {accepted : Accepted}
    {payload : Wire.Payload}
    (allowed : ∀ sent, (a.request method endpoint payload).prepare = .ok sent → P sent) :
    (a.call method endpoint accepted payload).Sends P := by
  have submitted : (a.submitAction (a.request method endpoint payload)).Sends P := by
    refine (Exchange.Sends.submit allowed).attempt.bind fun met => ?_
    split <;> trivial
  exact submitted.bind fun r => .of_silent (a.settle_silent accepted r)

namespace TitleDatabase

theorem fetch_sends (db : TitleDatabase) {endpoint : String} {fields : Wire.Fields}
    (allowed : ∀ sent, (db.request endpoint fields).prepare = .ok sent → P sent) :
    (db.fetch endpoint fields).Sends P := by
  unfold fetch
  -- As a request of a known site it would be prepared in every step.
  generalize db.request endpoint fields = r at allowed ⊢
  have asked := (Exchange.Sends.submit allowed).bind fun r => .of_silent (settle_silent r)
  split
  · refine asked.attempt.bind fun met => ?_
    cases met <;> trivial
  · trivial

/-- To find a title by its IMDb identifier nothing is sent but the request of the lookup. -/
theorem imdbToTmdb_sends (db : TitleDatabase) {imdb : Value} (allowed : ∀ sent,
    (db.request ("/find/" ++ imdb.text) [("external_source", .str "imdb_id")]).prepare = .ok sent → P sent) :
    (db.imdbToTmdb imdb).Sends P := by
  have found : (db.find imdb).Sends P := by
    unfold find
    cases spelled : imdb.spell with
    | error f => trivial
    | ok name =>
        obtain ⟨-, rfl⟩ := Value.brief_of_spell spelled
        exact db.fetch_sends allowed
  have asked : (db.find imdb >>= fun answer =>
      if answer.truthy then readMatches imdb answer else pure (.null, none)).Sends P := by
    refine found.bind fun answer => ?_
    split
    · exact .of_silent (readMatches_silent imdb answer)
    · trivial
  unfold imdbToTmdb
  split
  · refine (Exchange.Sends.lift _).bind fun valid => ?_
    cases valid with
    | false => trivial
    | true => exact asked
  · trivial

theorem resolve_sends (db : TitleDatabase) {pair : IdentifierPair} (given : pair.imdb.truthy = true)
    (asks : (db.imdbToTmdb pair.imdb).Sends P) : (db.resolve pair).Sends P := by
  have lookUp : (db.lookUp pair).Sends P := by
    rw [TitleDatabase.lookUp, if_pos given]
    exact asks.bind fun found => trivial
  unfold resolve
  split
  · trivial
  · split
    · trivial
    · refine lookUp.attempt.bind fun found => ?_
      cases found with
      | ok found => trivial
      | error fault => exact (Exchange.Sends.lift _).bind fun words => trivial

end TitleDatabase

end Sends

theorem Provider.served_realDebrid : realDebrid.site.Served :=
  ⟨"api.real-debrid.com".toList, rfl, Wire.forall_of_all (by decide)⟩

theorem TitleDatabase.served : site.Served :=
  ⟨"api.themoviedb.org".toList, rfl, Wire.forall_of_all (by decide)⟩

theorem isEndpoint_availability : Wire.IsEndpoint "/rest/1.0/torrents/instantAvailability" := by decide

namespace Account

variable {a : Account}

theorem request_spliced (provider : a.provider = .realDebrid) {method : Wire.Method} {payload : Wire.Payload}
    {base start text : String} {sent : Sent}
    (prepared : (a.request method (start ++ text) payload).prepare = .ok sent) (fixed : Wire.IsEndpoint base)
    (made : Provider.realDebrid.site.root ++ start = base ++ "/") :
    Spliced Provider.realDebrid.site base text sent := by
  have site : (a.request method (start ++ text) payload).site = Provider.realDebrid.site := by
    rw [request, provider]
  rw [← site]
  exact Wire.spliced_of_prepare prepared (site ▸ Provider.served_realDebrid) fixed rfl (site ▸ made)

theorem call_spliced (provider : a.provider = .realDebrid) {method : Wire.Method} (start text : String)
    {accepted : Accepted} {payload : Wire.Payload} {base : String} (fixed : Wire.IsEndpoint base)
    (made : Provider.realDebrid.site.root ++ start = base ++ "/") :
    (a.call method (start ++ text) accepted payload).Sends (Spliced Provider.realDebrid.site base text) :=
  a.call_sends fun _ prepared => request_spliced provider prepared fixed made

theorem question_spliced (provider : a.provider = .realDebrid) {batch : List String} {sent : Sent}
    (prepared : (a.question batch).prepare = .ok sent) : Spliced Provider.realDebrid.site
      "/rest/1.0/torrents/instantAvailability" (String.intercalate "/" batch) sent := by
  rw [question_realDebrid provider] at prepared
  exact request_spliced provider prepared isEndpoint_availability rfl

theorem descends_batch {hashes batch : List String} (part : batch ⊆ Hash.asked hashes)
    (each : ∀ h ∈ hashes, h ≠ "" → Descends (Hash.normalize h).toList) :
    Descends (String.intercalate "/" batch).toList := by
  rw [String.toList_intercalate]
  apply Wire.descends_intercalate
  intro cs member
  obtain ⟨form, inside, rfl⟩ := List.mem_map.mp member
  obtain ⟨h, given, some, rfl⟩ := Hash.mem_asked.mp (part inside)
  exact each h given some

/-- A text that a caller gives for a hash, a torrent or a title leaves a request on its own server, and
below its own endpoint just if the text's dot segments leave the endpoint's segments in their place with
one behind them. A text without dot segments, or one that nowhere climbs, does. -/
theorem requests_confined (provider : a.provider = .realDebrid) (db : TitleDatabase) (c : Client) :
    (∀ (hashes : List String) (sent : Sent), .sent sent ∈ ((a.check (.arr (hashes.map .str))).run c).events →
      ∃ batch ⊆ Hash.asked hashes,
        Spliced Provider.realDebrid.site "/rest/1.0/torrents/instantAvailability"
          (String.intercalate "/" batch) sent ∧
        ((∀ h ∈ hashes, h ≠ "" → Descends (Hash.normalize h).toList) →
          "/rest/1.0/torrents/instantAvailability/".toList <+: Wire.urlPath sent.url)) ∧
      (∀ (id : String) (sent : Sent), .sent sent ∈ ((a.act (.torrentInfo (.str id))).run c).events →
        Spliced Provider.realDebrid.site "/rest/1.0/torrents/info" id sent) ∧
      (∀ (id : String) (files : Value) (sent : Sent),
        .sent sent ∈ ((a.act (.selectFiles (.str id) files)).run c).events →
        Spliced Provider.realDebrid.site "/rest/1.0/torrents/selectFiles" id sent) ∧
      (∀ (id : String) (sent : Sent), .sent sent ∈ ((a.act (.deleteTorrent (.str id))).run c).events →
        Spliced Provider.realDebrid.site "/rest/1.0/torrents/delete" id sent) ∧
      (∀ imdb : String, imdb.startsWith "tt" = true → ∀ (tmdb : Value) (kind : KindLabel) (sent : Sent),
        .sent sent ∈ ((db.resolve ⟨.str imdb, tmdb, kind⟩).run c).events →
        Spliced TitleDatabase.site "/3/find" imdb sent) ∧
      ∀ text : List Char, (∀ s ∈ Wire.segments (Wire.pathPart text), s ≠ ['.'] ∧ s ≠ ['.', '.']) →
        Descends text := by
  refine ⟨?_, ?_, ?_, ?_, ?_, ?_⟩
  · intro hashes sent seen
    obtain ⟨u, batch, unique, part, prepared⟩ := (a.check_sends_parts _).seen seen
    rw [Hash.unique_texts] at unique
    cases unique
    have spliced := question_spliced provider prepared
    exact ⟨batch, part, spliced, fun each => spliced.below (descends_batch part each)⟩
  · intro id sent
    rw [act, provider]
    exact (call_spliced provider "/torrents/info/" id (by decide) rfl).seen
  · intro id files sent
    rw [act, provider]
    refine Exchange.Sends.seen (.bind (call_spliced provider "/torrents/selectFiles/" id (by decide) rfl) fun v => ?_)
    trivial
  · intro id sent
    rw [act, provider]
    refine Exchange.Sends.seen (.bind (call_spliced provider "/torrents/delete/" id (by decide) rfl) fun v => ?_)
    trivial
  · intro imdb marked tmdb kind sent
    refine Exchange.Sends.seen (db.resolve_sends (TitleDatabase.truthy_of_marked marked) ?_)
    exact db.imdbToTmdb_sends fun sent prepared =>
      Wire.spliced_of_prepare prepared TitleDatabase.served (by decide) rfl rfl
  · intro text still
    apply Wire.descends_of_still
    intro s member
    exact ⟨decide_eq_false (still s member).1, decide_eq_false (still s member).2⟩

def answering : Client := ⟨false, [], .answered ⟨200, [123, 125], 1000⟩⟩

theorem requests_confined_of_id :
    sample.provider = .realDebrid ∧ ∃ sent : Sent,
      .sent sent ∈ ((sample.act (.deleteTorrent (.str "a/../b?.."))).run answering).events ∧
      "/rest/1.0/torrents/delete/".toList <+: Wire.urlPath sent.url := by
  obtain ⟨-, -, -, delete, -⟩ := requests_confined (a := sample) rfl ⟨.str "key", .null⟩ answering
  have seen : ∃ sent, Event.sent sent ∈
      ((sample.act (.deleteTorrent (.str "a/../b?.."))).run answering).events :=
    ⟨_, List.mem_cons_self⟩
  obtain ⟨sent, seen⟩ := seen
  exact ⟨rfl, sent, seen, (delete _ sent seen).below ⟨0, rfl⟩⟩

/-- Two segments up from the numbers of torrents is the account itself. -/
theorem requests_not_confined :
    sample.provider = .realDebrid ∧ ∃ sent : Sent,
      .sent sent ∈ ((sample.act (.torrentInfo (.str "../../user"))).run answering).events ∧
      sent.url = "https://api.real-debrid.com/rest/1.0/user" ∧
      sent.authorization = some "Bearer key-123456" ∧
      ¬ "/rest/1.0/torrents/info/".toList <+: Wire.urlPath sent.url := by
  refine ⟨rfl, _, List.mem_cons_self, rfl, rfl, ?_⟩
  decide

end Account

end DebridCache
