import DebridCache.Action
import DebridCache.Availability.Check
import DebridCache.Title.Lookup
import DebridCache.Proofs.Sending

/-!
Work that is put together from requests, computations and log entries, with no pause in it. All that is
done for one request is of that kind, so whatever every way to compose work keeps, all of it keeps.
-/

namespace DebridCache

open Wire (Method Payload)

inductive Exchange.Composed : {α : Type} → Exchange α → Prop
  | done {α : Type} (a : α) : Composed (pure a : Exchange α)
  | fail {α : Type} (f : Fault) : Composed (.fail f : Exchange α)
  | lift {α : Type} (e : Except Fault α) : Composed (Exchange.lift e)
  | submit (r : Wire.Request) : Composed (Exchange.submit r)
  | note {α : Type} {e : Entry} {rest : Exchange α} : Composed rest → Composed (.note e rest)
  | bind {α β : Type} {x : Exchange α} {k : α → Exchange β} :
    Composed x → (∀ a, Composed (k a)) → Composed (x >>= k)
  | attempt {α : Type} {x : Exchange α} : Composed x → Composed x.attempt

theorem Exchange.Composed.wakeful {α : Type} {x : Exchange α} (composed : x.Composed) : x.Wakeful := by
  induction composed with
  | done a => trivial
  | fail f => trivial
  | lift e => exact .lift fun f failed => trivial
  | submit r => exact .submit r (fun _ => trivial) (fun _ => trivial) fun f met => trivial
  | note rest ih => exact ih
  | bind first rest ihf ihr => exact ihf.bind ihr
  | attempt work ih => exact ih.attempt

namespace Account

theorem askBatch_composed (a : Account) (batch : List String) : (a.askBatch batch).Composed := by
  refine (Exchange.Composed.submit _).bind fun r => (Exchange.Composed.lift _).bind fun v =>
    (Exchange.Composed.lift _).bind fun reading => ?_
  cases reading with
  | found statuses => exact .done statuses
  | refused reason => exact .note (.done [])

theorem tryBatch_composed (a : Account) (results : ResultMap) (batch : List String) :
    (a.tryBatch results batch).Composed := by
  refine (a.askBatch_composed batch).attempt.bind fun found => ?_
  cases found with
  | ok statuses => exact .done _
  | error f => exact .note (.done results)

theorem submitAction_composed (a : Account) (r : Wire.Request) : (a.submitAction r).Composed := by
  refine (Exchange.Composed.submit r).attempt.bind fun met => ?_
  split
  · exact .done _
  · exact .note (.fail _)
  · exact .fail _

theorem settle_composed (a : Account) (accepted : Accepted) (r : Wire.Response) :
    (a.settle accepted r).Composed := by
  unfold settle
  split
  · split
    · exact .done _
    · split
      · exact .done _
      · exact .note (.fail _)
      · exact .fail _
  · exact (Exchange.Composed.lift _).bind fun detail => .note (.fail _)

theorem settle_silent (a : Account) (accepted : Accepted) (r : Wire.Response) :
    (a.settle accepted r).Silent := by
  unfold settle
  split
  · split
    · trivial
    · split <;> trivial
  · exact (Exchange.Sends.lift _).bind fun detail => trivial

theorem call_composed (a : Account) (method : Wire.Method) (endpoint : String) (accepted : Accepted)
    (payload : Wire.Payload) : (a.call method endpoint accepted payload).Composed :=
  (a.submitAction_composed _).bind fun r => a.settle_composed accepted r

/-- Work that is one call, in the name of any account at a provider, and then a reading without another. -/
def IsCall (p : Provider) (x : Account → Exchange Value) : Prop :=
  ∃ method endpoint accepted payload, ∃ rest : Value → Exchange Value,
    (∀ v, (rest v).Composed ∧ (rest v).Silent) ∧
    ∀ a : Account, a.provider = p → x a = (a.call method endpoint accepted payload >>= rest)

theorem isCall_read {p : Provider} {x : Account → Exchange Value} {method : Method} {endpoint : String}
    {accepted : Accepted} {payload : Payload} (g : Value → Value)
    (same : ∀ a : Account, a.provider = p →
      x a = (a.call method endpoint accepted payload >>= fun v => pure (g v))) : IsCall p x :=
  ⟨method, endpoint, accepted, payload, _, fun v => ⟨.done (g v), trivial⟩, same⟩

theorem isCall_whole {p : Provider} {x : Account → Exchange Value} {method : Method} {endpoint : String}
    {accepted : Accepted} {payload : Payload}
    (same : ∀ a : Account, a.provider = p → x a = a.call method endpoint accepted payload) :
    IsCall p x :=
  isCall_read (fun v => v) fun a own => (same a own).trans (Exchange.bind_done _).symm

/-- A text that the call needs is made first; where it cannot be made there is no call. -/
theorem isCall_with {p : Provider} {x : Account → Exchange Value} {method : Method}
    {endpoint : String → String} {accepted : Accepted} {payload : String → Payload}
    {rest : Value → Exchange Value} {text : Except Fault String}
    (quiet : ∀ v, (rest v).Composed ∧ (rest v).Silent)
    (same : ∀ a : Account, a.provider = p → x a = (Exchange.lift text >>= fun s =>
      a.call method (endpoint s) accepted (payload s) >>= rest)) :
    (∃ f, ∀ a : Account, a.provider = p → x a = .fail f) ∨ IsCall p x := by
  cases made : text with
  | error f => exact .inl ⟨f, fun a own => by rw [same a own, made]; rfl⟩
  | ok s =>
      refine .inr ⟨method, endpoint s, accepted, payload s, rest, quiet, fun a own => ?_⟩
      rw [same a own, made]
      rfl

theorem isCall_spelled {p : Provider} {x : Account → Exchange Value} {method : Method}
    {endpoint : String → String} {accepted : Accepted} {payload : Payload} {text : Except Fault String}
    (same : ∀ a : Account, a.provider = p → x a = (Exchange.lift text >>= fun s =>
      a.call method (endpoint s) accepted payload)) :
    (∃ f, ∀ a : Account, a.provider = p → x a = .fail f) ∨ IsCall p x := by
  cases made : text with
  | error f => exact .inl ⟨f, fun a own => by rw [same a own, made]; rfl⟩
  | ok s => exact .inr (isCall_whole fun a own => by rw [same a own, made]; rfl)

/-- An action fails at once or is one call. Which of the two it is, and what is called, depends on the
provider alone. -/
theorem act_shape (p : Provider) (action : Action) :
    (∃ f, ∀ a : Account, a.provider = p → a.act action = .fail f) ∨ IsCall p (·.act action) := by
  have announced (message : String) (v : Value) :
      (Exchange.log .info message >>= fun _ => (pure v : Exchange Value)).Composed ∧
        (Exchange.log .info message >>= fun _ => (pure v : Exchange Value)).Silent :=
    ⟨.note (.done v), trivial⟩
  have numbered (id : Except Fault Value) (message : Value → String) (v : Value) :
      (Exchange.lift id >>= fun id => Exchange.log .info (message id) >>= fun _ =>
        (pure v : Exchange Value)).Composed ∧
      (Exchange.lift id >>= fun id => Exchange.log .info (message id) >>= fun _ =>
        (pure v : Exchange Value)).Silent :=
    ⟨(Exchange.Composed.lift id).bind fun id => (announced _ v).1,
      (Exchange.Sends.lift id).bind fun id => (announced _ v).2⟩
  have nothing (_ : Value) :
      (pure Value.null : Exchange Value).Composed ∧ (pure Value.null : Exchange Value).Silent :=
    ⟨.done Value.null, trivial⟩
  cases p with
  | realDebrid =>
      have acts (a : Account) (own : a.provider = .realDebrid) : a.act action = a.actRealDebrid action := by
        rw [act, own]
      cases action with
      | userInfo => exact .inr (isCall_whole acts)
      | addMagnet link => exact isCall_with (fun v => numbered _ _ v) acts
      | torrents => exact .inr (isCall_read _ acts)
      | torrentInfo id => exact isCall_spelled acts
      | selectFiles id files => exact isCall_with nothing acts
      | deleteTorrent id => exact isCall_with nothing acts
      | unrestrictLink link => exact .inr (isCall_whole acts)
  | torbox =>
      have acts (a : Account) (own : a.provider = .torbox) : a.act action = a.actTorbox action := by
        rw [act, own]
      cases action with
      | userInfo => exact .inr (isCall_read _ acts)
      | addMagnet link => exact isCall_with (fun v => numbered _ _ v) acts
      | torrents => exact .inr (isCall_read (fun v => listOf (v.memberOrNull "data")) acts)
      | _ => exact .inl ⟨_, acts⟩
  | allDebrid =>
      have acts (a : Account) (own : a.provider = .allDebrid) : a.act action = a.actAllDebrid action := by
        rw [act, own]
      cases action with
      | userInfo => exact .inr (isCall_read _ acts)
      | addMagnet link => exact isCall_with (fun v => announced _ v) acts
      | unrestrictLink link => exact .inr (isCall_whole acts)
      | _ => exact .inl ⟨_, acts⟩

theorem act_composed (a : Account) (action : Action) : (a.act action).Composed := by
  rcases act_shape a.provider action with ⟨f, fails⟩ | ⟨_, _, _, _, rest, quiet, calls⟩
  · rw [fails a rfl]
    exact .fail f
  · rw [show a.act action = _ from calls a rfl]
    exact (a.call_composed ..).bind fun v => (quiet v).1

end Account

namespace TitleDatabase

theorem settle_composed (r : Wire.Response) : (settle r).Composed := by
  unfold settle
  split
  · exact .lift _
  · exact .note (.done _)

theorem settle_silent (r : Wire.Response) : (settle r).Silent := by
  unfold settle
  split
  · exact .lift _
  · trivial

theorem fetch_composed (db : TitleDatabase) (endpoint : String) (fields : Wire.Fields) :
    (db.fetch endpoint fields).Composed := by
  have asked := (Exchange.Composed.submit (db.request endpoint fields)).bind settle_composed
  unfold fetch
  split
  · refine asked.attempt.bind fun met => ?_
    cases met with
    | ok v => exact .done v
    | error f => exact .note (.done _)
  · exact .note (.done _)

theorem externalIds_composed (db : TitleDatabase) (tmdb mediaType : Value) :
    (db.externalIds tmdb mediaType).Composed := by
  refine (Exchange.Composed.lift _).bind fun shelf => (Exchange.Composed.lift _).bind fun number => ?_
  refine (db.fetch_composed ..).bind fun result => ?_
  split
  · exact (Exchange.Composed.lift _).bind fun ids => .done _
  · exact .done _

theorem readMatches_composed (imdb answer : Value) : (readMatches imdb answer).Composed := by
  refine (Exchange.Composed.lift _).bind fun found => ?_
  cases found with
  | none => exact .note (.done _)
  | some found => exact (Exchange.Composed.lift _).bind fun id => .note (.done _)

theorem readMatches_silent (imdb answer : Value) : (readMatches imdb answer).Silent := by
  refine (Exchange.Sends.lift _).bind fun found => ?_
  cases found with
  | none => trivial
  | some found => exact (Exchange.Sends.lift _).bind fun id => trivial

theorem imdbToTmdb_composed (db : TitleDatabase) (imdb : Value) : (db.imdbToTmdb imdb).Composed := by
  have asked : (db.find imdb >>= fun answer =>
      if answer.truthy then readMatches imdb answer else pure (.null, none)).Composed := by
    refine .bind ((Exchange.Composed.lift _).bind fun name => db.fetch_composed ..) fun answer => ?_
    split
    · exact readMatches_composed imdb answer
    · exact .done _
  unfold imdbToTmdb
  split
  · refine (Exchange.Composed.lift _).bind fun valid => ?_
    cases valid with
    | false => exact .note (.done _)
    | true => exact asked
  · exact .note (.done _)

theorem tmdbToImdb_composed (db : TitleDatabase) (tmdb : Value) (label : KindLabel) :
    (db.tmdbToImdb tmdb label).Composed := by
  unfold tmdbToImdb
  split
  · refine (db.externalIds_composed ..).bind fun ids => ?_
    dsimp only
    split
    · refine (Exchange.Composed.lift _).bind fun imdb => ?_
      split
      · exact .note (.done imdb)
      · exact .note (.done _)
    · exact .note (.done _)
  · exact (Exchange.Composed.lift _).bind fun number => (Exchange.Composed.lift _).bind fun kind =>
      .note (.done _)

theorem resolve_composed (db : TitleDatabase) (pair : IdentifierPair) : (db.resolve pair).Composed := by
  have lookUp : (db.lookUp pair).Composed := by
    unfold TitleDatabase.lookUp
    split
    · exact (db.imdbToTmdb_composed _).bind fun found => .done _
    · exact (db.tmdbToImdb_composed _ _).bind fun imdb => .done _
  unfold resolve
  split
  · exact .done pair
  · split
    · exact .note (.done _)
    · refine lookUp.attempt.bind fun found => ?_
      cases found with
      | ok found => exact .done found
      | error f => exact (Exchange.Composed.lift _).bind fun words => .note (.done pair)

end TitleDatabase
end DebridCache
