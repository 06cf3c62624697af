import Mathlib.Data.List.Forall2
import DebridCache.Title.Session
import DebridCache.Proofs.Composed
import DebridCache.Proofs.Session

/-!
Works that are alike but for what they send. Each request of the one stands where the other has a request
that is related to it, and for the rest they go on in the same way whatever the outcomes are. So they end
alike on the same client, and all that can be told apart are the requests.
-/

namespace DebridCache

open Wire (Sent Outcome Request)

variable {α β : Type} {R : Sent → Sent → Prop}

inductive Event.SameBut (R : Sent → Sent → Prop) : Event → Event → Prop
  | sent {r r' : Sent} (related : R r r') : SameBut R (.sent r) (.sent r')
  | slept (d : Value) : SameBut R (.slept d) (.slept d)

structure Run.SameBut (R : Sent → Sent → Prop) (r r' : Run α) : Prop where
  result : r'.result = r.result
  events : List.Forall₂ (Event.SameBut R) r.events r'.events
  entries : r'.entries = r.entries
  client : r'.client = r.client

/-- Two requests that are refused alike, or can both be sent in related forms. -/
inductive Wire.Request.SameBut (R : Sent → Sent → Prop) (r r' : Request) : Prop
  | refused (f : Fault) (fails : r.prepare = .error f) (fails' : r'.prepare = .error f)
  | sent {s s' : Sent} (prepared : r.prepare = .ok s) (prepared' : r'.prepare = .ok s') (related : R s s')

inductive Exchange.SameBut (R : Sent → Sent → Prop) : Exchange α → Exchange α → Prop
  | done (a : α) : SameBut R (.done a) (.done a)
  | fail (f : Fault) : SameBut R (.fail f) (.fail f)
  | send {r r' : Sent} {k k' : Outcome → Exchange α} (related : R r r')
    (rest : ∀ o, SameBut R (k o) (k' o)) : SameBut R (.send r k) (.send r' k')
  | sleep {x x' : Exchange α} (d : Value) (rest : SameBut R x x') : SameBut R (.sleep d x) (.sleep d x')
  | note {x x' : Exchange α} (e : Entry) (rest : SameBut R x x') : SameBut R (.note e x) (.note e x')

namespace Exchange.SameBut

variable {x x' : Exchange α}

theorem of_silent {x : Exchange α} (silent : x.Silent) : x.SameBut R x := by
  induction x with
  | done a => exact .done a
  | fail f => exact .fail f
  | send r next ih => exact silent.1.elim
  | sleep d next ih => exact .sleep d (ih silent)
  | note e next ih => exact .note e (ih silent)

theorem submit {r r' : Request} (same : r.SameBut R r') :
    (Exchange.submit r).SameBut R (Exchange.submit r') := by
  unfold Exchange.submit
  cases same with
  | refused f fails fails' =>
      rw [fails, fails']
      exact .fail f
  | sent prepared prepared' related =>
      rw [prepared, prepared']
      refine .send related fun o => ?_
      cases o with
      | answered response => exact .done response
      | failed f => exact .fail f

theorem bind {k k' : α → Exchange β} (first : x.SameBut R x') (rest : ∀ a, (k a).SameBut R (k' a)) :
    (x >>= k).SameBut R (x' >>= k') := by
  induction first with
  | done a => exact rest a
  | fail f => exact .fail f
  | send related _ ih => exact .send related ih
  | sleep d _ ih => exact .sleep d ih
  | note e _ ih => exact .note e ih

theorem lift_bind {e : Except Fault α} {k k' : α → Exchange β} (rest : ∀ a, (k a).SameBut R (k' a)) :
    (Exchange.lift e >>= k).SameBut R (Exchange.lift e >>= k') :=
  (of_silent (Exchange.Sends.lift e)).bind rest

theorem attempt (same : x.SameBut R x') : x.attempt.SameBut R x'.attempt := by
  induction same with
  | done a => exact .done _
  | fail f =>
      unfold Exchange.attempt
      split
      · exact .done _
      · exact .fail f
  | send related _ ih => exact .send related ih
  | sleep d _ ih => exact .sleep d ih
  | note e _ ih => exact .note e ih

theorem run (same : x.SameBut R x') (c : Client) : (x.run c).SameBut R (x'.run c) := by
  induction same generalizing c with
  | done a => exact ⟨rfl, .nil, rfl, rfl⟩
  | fail f => exact ⟨rfl, .nil, rfl, rfl⟩
  | @send r r' k k' related _ ih =>
      by_cases closed : c.isClosed = true
      · rw [Exchange.run, if_pos closed, Exchange.run, if_pos closed]
        exact ih _ c
      · rw [Exchange.run, if_neg closed, Exchange.run, if_neg closed]
        have next := ih c.script.next.1 { c with script := c.script.next.2 }
        exact ⟨next.result, .cons (.sent related) next.events, next.entries, next.client⟩
  | sleep d _ ih => exact ⟨(ih c).result, .cons (.slept d) (ih c).events, (ih c).entries, (ih c).client⟩
  | note e _ ih => exact ⟨(ih c).result, (ih c).events, congrArg (e :: ·) (ih c).entries, (ih c).client⟩

end Exchange.SameBut

theorem Batch.consumeTicks_sameBut {f f' : β → List α → Exchange β}
    (each : ∀ b items, (f b items).SameBut R (f' b items)) (ticks : List (Tick α)) (start : β) :
    (consumeTicks f start ticks).SameBut R (consumeTicks f' start ticks) := by
  induction ticks generalizing start with
  | nil => exact .done start
  | cons tick ticks ih =>
      cases tick with
      | batch items => exact (each start items).bind ih
      | pause d e => exact .note e (.sleep d (ih start))

namespace Account

def under (a : Account) (credential : Value) : Account := { a with credential := credential }

variable {a : Account} {credential : Value}

/-- Whatever is requested in the name of an account, it is alike under another credential. -/
def Disclosing (R : Sent → Sent → Prop) (a : Account) (credential : Value) : Prop :=
  ∀ method endpoint payload,
    (a.request method endpoint payload).SameBut R ((a.under credential).request method endpoint payload)

theorem question_sameBut (asks : a.Disclosing R credential) (batch : List String) :
    (a.question batch).SameBut R ((a.under credential).question batch) := by
  have same : (a.under credential).provider = a.provider := rfl
  unfold question
  rw [same]
  cases a.provider <;> exact asks ..

theorem tryBatch_sameBut (asks : a.Disclosing R credential) (results : ResultMap) (batch : List String) :
    (a.tryBatch results batch).SameBut R ((a.under credential).tryBatch results batch) := by
  unfold tryBatch askBatch
  rw [Exchange.attempt_bind_bind, Exchange.attempt_bind_bind]
  refine (Exchange.SameBut.submit (question_sameBut asks batch)).attempt.bind fun met => ?_
  cases met with
  | error f => exact .note _ (.done results)
  | ok r =>
      -- A bad status is a fault that holds the address, of which only the status is logged.
      unfold documentOf
      dsimp only
      by_cases success : r.isSuccess = true
      · rw [if_pos success, if_pos success]
        refine Exchange.SameBut.bind (.attempt (.of_silent ?_)) fun found => .of_silent ?_
        · refine (Exchange.Sends.lift _).bind fun v => (Exchange.Sends.lift _).bind fun reading => ?_
          cases reading <;> trivial
        · cases found <;> trivial
      · rw [if_neg success, if_neg success]
        exact .note _ (.done results)

theorem check_sameBut (asks : a.Disclosing R credential) (input : Value) :
    (a.check input).SameBut R ((a.under credential).check input) := by
  refine .lift_bind fun hashes => ?_
  cases hashes with
  | nil => exact .done []
  | cons h hs =>
      refine Exchange.SameBut.bind ?_ fun results => .note _ (.done results)
      refine (Batch.consumeTicks_sameBut (tryBatch_sameBut asks) _ _).bind fun results => .of_silent ?_
      split <;> trivial

theorem submitAction_sameBut (a : Account) {r r' : Request} (same : r.SameBut R r') :
    (a.submitAction r).SameBut R ((a.under credential).submitAction r') := by
  refine (Exchange.SameBut.submit same).attempt.bind fun met => .of_silent ?_
  split <;> trivial

theorem act_sameBut (asks : a.Disclosing R credential) (action : Action) :
    (a.act action).SameBut R ((a.under credential).act action) := by
  rcases act_shape a.provider action with ⟨f, fails⟩ | ⟨_, _, accepted, _, rest, quiet, calls⟩
  · rw [fails a rfl, fails (a.under credential) rfl]
    exact .fail f
  · rw [show a.act action = _ from calls a rfl,
      show (a.under credential).act action = _ from calls (a.under credential) rfl]
    refine Exchange.SameBut.bind ?_ fun v => .of_silent (quiet v).2
    exact (a.submitAction_sameBut (asks ..)).bind fun r => .of_silent (a.settle_silent accepted r)

end Account

namespace TitleDatabase

def under (db : TitleDatabase) (key : Value) : TitleDatabase := { db with apiKey := key }

/-- What is asked for beside the key in any request to the database. -/
def lookupFields : List Wire.Fields :=
  [[("external_source", .str "imdb_id")], [("append_to_response", .str "external_ids")]]

structure Disclosing (R : Sent → Sent → Prop) (db : TitleDatabase) (key : Value) : Prop where
  given : db.apiKey.truthy = true
  given' : key.truthy = true
  request : ∀ endpoint, ∀ fields ∈ lookupFields,
    (db.request endpoint fields).SameBut R ((db.under key).request endpoint fields)

variable {db : TitleDatabase} {key : Value}

theorem fetch_sameBut (asks : db.Disclosing R key) (endpoint : String) {fields : Wire.Fields}
    (listed : fields ∈ lookupFields) :
    (db.fetch endpoint fields).SameBut R ((db.under key).fetch endpoint fields) := by
  have given' : (db.under key).apiKey.truthy = true := asks.given'
  unfold fetch
  rw [if_pos asks.given, if_pos given']
  have asked := (Exchange.SameBut.submit (asks.request endpoint fields listed)).bind fun r =>
    .of_silent (settle_silent r)
  refine asked.attempt.bind fun met => .of_silent ?_
  split <;> trivial

theorem externalIds_sameBut (asks : db.Disclosing R key) (tmdb mediaType : Value) :
    (db.externalIds tmdb mediaType).SameBut R ((db.under key).externalIds tmdb mediaType) := by
  refine .lift_bind fun shelf => .lift_bind fun number => ?_
  refine (fetch_sameBut asks _ (.tail _ (.head _))).bind fun result => .of_silent ?_
  split
  · exact (Exchange.Sends.lift _).bind fun ids => trivial
  · trivial

theorem find_sameBut (asks : db.Disclosing R key) (imdb : Value) :
    (db.find imdb).SameBut R ((db.under key).find imdb) :=
  .lift_bind fun _ => fetch_sameBut asks _ (.head _)

theorem imdbToTmdb_sameBut (asks : db.Disclosing R key) (imdb : Value) :
    (db.imdbToTmdb imdb).SameBut R ((db.under key).imdbToTmdb imdb) := by
  have asked : (db.find imdb >>= fun answer =>
      if answer.truthy then readMatches imdb answer else pure (.null, none)).SameBut R
        ((db.under key).find imdb >>= fun answer =>
          if answer.truthy then readMatches imdb answer else pure (.null, none)) := by
    refine (find_sameBut asks imdb).bind fun answer => .of_silent ?_
    split
    · exact readMatches_silent imdb answer
    · trivial
  unfold imdbToTmdb
  split
  · refine .lift_bind fun valid => ?_
    cases valid with
    | false => exact .note _ (.done _)
    | true => exact asked
  · exact .note _ (.done _)

theorem tmdbToImdb_sameBut (asks : db.Disclosing R key) (tmdb : Value) (label : KindLabel) :
    (db.tmdbToImdb tmdb label).SameBut R ((db.under key).tmdbToImdb tmdb label) := by
  unfold tmdbToImdb
  split
  · refine (externalIds_sameBut asks ..).bind fun ids => .of_silent ?_
    dsimp only
    split
    · refine (Exchange.Sends.lift _).bind fun imdb => ?_
      split <;> trivial
    · trivial
  · exact .lift_bind fun number => .lift_bind fun kind => .note _ (.done _)

theorem resolve_sameBut (asks : db.Disclosing R key) (pair : IdentifierPair) :
    (db.resolve pair).SameBut R ((db.under key).resolve pair) := by
  have lookUp : (db.lookUp pair).SameBut R ((db.under key).lookUp pair) := by
    unfold TitleDatabase.lookUp
    split
    · exact (imdbToTmdb_sameBut asks _).bind fun found => .done _
    · exact (tmdbToImdb_sameBut asks ..).bind fun imdb => .done _
  unfold resolve
  split
  · exact .done pair
  · split
    · exact .note _ (.done _)
    · refine lookUp.attempt.bind fun found => ?_
      cases found with
      | ok found => exact .done found
      | error f => exact .lift_bind fun words => .note _ (.done pair)

end TitleDatabase

inductive Report.SameBut (R : Sent → Sent → Prop) : Report → Report → Prop
  | single (result : Except Fault Reply) {events events' : List Event}
    (same : List.Forall₂ (Event.SameBut R) events events') (entries : List Entry) :
    SameBut R (.single result events entries) (.single result events' entries)
  | scope {reports reports' : List Report} (each : List.Forall₂ (SameBut R) reports reports') :
    SameBut R (.scope reports) (.scope reports')

theorem Report.SameBut.events {result result' : Except Fault Reply} {events events' : List Event}
    {entries entries' : List Entry}
    (same : SameBut R (.single result events entries) (.single result' events' entries')) :
    List.Forall₂ (Event.SameBut R) events events' := by
  cases same
  assumption

namespace Session

variable {a : Account} {s : Session} {credential : Value}

def under (s : Session) (credential : Value) : Session :=
  { s with account := s.account.under credential }

theorem work_sameBut {x x' : Exchange α} (same : x.SameBut R x') (s : Session) (reply : α → Reply) :
    ((s.under credential).work x' reply).1 = (s.work x reply).1.under credential ∧
      (s.work x reply).2.SameBut R ((s.under credential).work x' reply).2 := by
  have ran := same.run s.client
  unfold work under
  dsimp only
  rw [ran.result, ran.entries, ran.client]
  exact ⟨rfl, .single _ ran.events _⟩

theorem performAll_under {ops : List Operation} (keeps : ∀ o ∈ ops, o.Keeps)
    (each : ∀ o ∈ ops, ∀ s : Session, s.account = a →
      ((s.under credential).perform o).1 = (s.perform o).1.under credential ∧
        (s.perform o).2.SameBut R ((s.under credential).perform o).2) (own : s.account = a) :
    ((s.under credential).performAll ops).1 = (s.performAll ops).1.under credential ∧
      List.Forall₂ (Report.SameBut R) (s.performAll ops).2 ((s.under credential).performAll ops).2 := by
  induction ops generalizing s with
  | nil =>
      rw [performAll, performAll]
      exact ⟨rfl, .nil⟩
  | cons o os ih =>
      obtain ⟨first, reported⟩ := each o List.mem_cons_self s own
      have kept := perform_account (keeps o List.mem_cons_self) s own
      obtain ⟨rest, reports⟩ := ih (fun p later => keeps p (List.mem_cons_of_mem o later))
        (fun p later => each p (List.mem_cons_of_mem o later)) kept
      rw [performAll_cons, performAll_cons, first]
      exact ⟨rest, .cons reported reports⟩

/-- One operation under the one credential or the other: the same happens, with the requests alike. -/
theorem perform_sameBut (asks : a.Disclosing R credential) {o : Operation} (plain : o.Public)
    (s : Session) : s.account = a →
      ((s.under credential).perform o).1 = (s.perform o).1.under credential ∧
        (s.perform o).2.SameBut R ((s.under credential).perform o).2 := by
  induction plain generalizing s with
  | check input =>
      rintro rfl
      rw [perform, perform]
      exact work_sameBut (Account.check_sameBut asks input) s .statuses
  | act action =>
      rintro rfl
      rw [perform, perform]
      exact work_sameBut (Account.act_sameBut asks action) s .value
  | close =>
      intro own
      rw [perform, perform]
      exact ⟨rfl, .single _ .nil []⟩
  | unsupported member =>
      intro own
      rw [perform, perform]
      exact ⟨rfl, .single _ .nil []⟩
  | scope each ih =>
      intro own
      obtain ⟨rest, reports⟩ := performAll_under (fun o member => (each o member).keeps) ih own
      rw [perform, perform]
      unfold within
      dsimp only
      rw [rest]
      exact ⟨rfl, .scope reports⟩

theorem performAll_sameBut (asks : s.account.Disclosing R credential) {ops : List Operation}
    (plain : ∀ o ∈ ops, o.Public) :
    ((s.under credential).performAll ops).1 = (s.performAll ops).1.under credential ∧
      List.Forall₂ (Report.SameBut R) (s.performAll ops).2 ((s.under credential).performAll ops).2 :=
  performAll_under (fun o member => (plain o member).keeps)
    (fun o member => perform_sameBut asks (plain o member)) rfl

end Session

structure TitleReport.SameBut (R : Sent → Sent → Prop) (r r' : TitleReport) : Prop where
  result : r'.result = r.result
  events : List.Forall₂ (Event.SameBut R) r.events r'.events
  entries : r'.entries = r.entries

def TitleOperation.Public (o : TitleOperation) : Prop := ∀ v, o ≠ .assignKey v

namespace TitleSession

variable {s : TitleSession} {key : Value}

def under (s : TitleSession) (key : Value) : TitleSession := { s with database := s.database.under key }

theorem work_sameBut {x x' : Exchange α} (same : x.SameBut R x') (s : TitleSession)
    (reply : α → TitleReply) :
    ((s.under key).work x' reply).1 = (s.work x reply).1.under key ∧
      (s.work x reply).2.SameBut R ((s.under key).work x' reply).2 := by
  have ran := same.run s.client
  unfold work under
  dsimp only
  rw [ran.result, ran.entries, ran.client]
  exact ⟨rfl, rfl, ran.events, rfl⟩

theorem perform_sameBut (asks : s.database.Disclosing R key) {o : TitleOperation} (plain : o.Public) :
    ((s.under key).perform o).1 = (s.perform o).1.under key ∧
      (s.perform o).2.SameBut R ((s.under key).perform o).2 := by
  cases o with
  | resolve pair => exact work_sameBut (TitleDatabase.resolve_sameBut asks pair) s _
  | imdbToTmdb imdb => exact work_sameBut (TitleDatabase.imdbToTmdb_sameBut asks imdb) s _
  | tmdbToImdb tmdb label => exact work_sameBut (TitleDatabase.tmdbToImdb_sameBut asks tmdb label) s _
  | complete imdb tmdb kind => exact work_sameBut (TitleDatabase.resolve_sameBut asks _) s _
  | find imdb => exact work_sameBut (TitleDatabase.find_sameBut asks imdb) s _
  | externalIds tmdb kind => exact work_sameBut (TitleDatabase.externalIds_sameBut asks tmdb kind) s _
  | assignKey v => exact absurd rfl (plain v)
  | close => exact ⟨rfl, rfl, .nil, rfl⟩
  | unsupported member => exact ⟨rfl, rfl, .nil, rfl⟩

theorem perform_database {o : TitleOperation} (plain : o.Public) (s : TitleSession) :
    (s.perform o).1.database = s.database := by
  cases o with
  | assignKey v => exact absurd rfl (plain v)
  | _ => rfl

theorem performAll_sameBut (asks : s.database.Disclosing R key) {ops : List TitleOperation}
    (plain : ∀ o ∈ ops, o.Public) :
    ((s.under key).performAll ops).1 = (s.performAll ops).1.under key ∧
      List.Forall₂ (TitleReport.SameBut R) (s.performAll ops).2 ((s.under key).performAll ops).2 := by
  induction ops generalizing s with
  | nil => exact ⟨rfl, .nil⟩
  | cons o os ih =>
      obtain ⟨first, reported⟩ := perform_sameBut asks (plain o List.mem_cons_self)
      have kept := perform_database (plain o List.mem_cons_self) s
      obtain ⟨rest, reports⟩ := ih (s := (s.perform o).1) (by rwa [kept])
        fun p later => plain p (List.mem_cons_of_mem o later)
      rw [performAll, performAll]
      dsimp only
      rw [first]
      exact ⟨rest, .cons reported reports⟩

end TitleSession
end DebridCache
