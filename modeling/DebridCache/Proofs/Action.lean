import DebridCache.Action
import DebridCache.Proofs.Account
import DebridCache.Proofs.Run
import DebridCache.Proofs.Value.Brief

/-!
What an action can end with. Each is one call whose value is then read in the action's own way, so a
fault that is no refusal of the action can only come from that reading.
-/

namespace DebridCache

open Wire (Sent Outcome Request Response)

namespace Action

def arguments : Action → List Value
  | .userInfo | .torrents => []
  | .addMagnet link | .unrestrictLink link => [link]
  | .torrentInfo id | .deleteTorrent id => [id]
  | .selectFiles id files => [id, files]

def numbers : Action → List Value
  | .torrentInfo id | .deleteTorrent id | .selectFiles id _ => [id]
  | _ => []

def Trips (p : Provider) (action : Action) (v : Value) : Prop :=
  match p, action with
  | .realDebrid, .addMagnet _ => ∀ members, v ≠ .obj members
  | .torbox, .addMagnet _ =>
    (v.memberOrNull "data").truthy = true ∧ ∀ members, v.memberOrNull "data" ≠ .obj members
  | _, _ => False

end Action

namespace Account

/-- What is left of a request's outcome once a failed transport counts as a failed action. -/
def submitted (a : Account) : Outcome → Except Fault Response
  | .answered r => .ok r
  | .failed (.transport kind message) =>
    .error (.action a.name none (transportDetail kind message))
  | .failed f => .error f

def settled (a : Account) (accepted : Accepted) (r : Response) : Except Fault Value :=
  if accepted.holds r then
    if r.body.isEmpty then .ok (.obj [])
    else
      match r.document with
      | .ok v => .ok v
      | .error (.unreadable _) => .error (.action a.name (some r.status) "Invalid JSON response")
      | .error f => .error f
  else (errorDetail a.provider r) >>= fun detail => .error (.action a.name (some r.status) detail)

theorem submitAction_ends (a : Account) (r : Request) {c : Client}
    (kept : c.ask r ≠ .failed .cancelled) :
    (a.submitAction r).Ends c (a.submitted (c.ask r)) (c.afterAsk r) (c.asking r) := by
  have tried : (c.ask r).response ≠ .error .cancelled := by
    intro withdrawn
    cases met : c.ask r with
    | answered response =>
        rw [met] at withdrawn
        cases withdrawn
    | failed f =>
        rw [met] at withdrawn
        cases withdrawn
        exact kept met
  have attempted := (Exchange.Ends.submit r c).attempt tried
  unfold submitAction
  rw [← List.append_nil (c.asking r)]
  refine attempted.bind ?_
  cases c.ask r with
  | answered response => exact .done response _
  | failed f =>
      cases f with
      | transport kind message => exact .note (.fail _ _)
      | _ => exact .fail _ _

theorem settle_ends (a : Account) (accepted : Accepted) (r : Response) (c : Client) :
    (a.settle accepted r).Ends c (a.settled accepted r) c [] := by
  unfold settle settled
  by_cases holds : accepted.holds r = true
  · rw [if_pos holds, if_pos holds]
    by_cases empty : r.body.isEmpty = true
    · rw [if_pos empty, if_pos empty]
      exact .done _ c
    · rw [if_neg empty, if_neg empty]
      rcases r.document_cases with ⟨v, document⟩ | document | document <;> rw [document]
      · exact .done v c
      · exact .note (.fail _ c)
      · exact .fail _ c
  · rw [if_neg holds, if_neg holds]
    cases errorDetail a.provider r with
    | ok detail => exact .note (.fail _ c)
    | error f => exact .fail f c

/-- Work that is one call, whose value is read in some way of its own. -/
structure OneCall (a : Account) (x : Exchange Value) (r : Request) (accepted : Accepted)
    (reading : Value → Except Fault Value) : Prop where
  authorization : r.authorization = a.authorization
  ends : ∀ c : Client, c.ask r ≠ .failed .cancelled →
    x.Ends c ((a.submitted (c.ask r) >>= a.settled accepted) >>= reading) (c.afterAsk r) (c.asking r)

theorem call_ends (a : Account) (method : Wire.Method) (endpoint : String) (accepted : Accepted)
    (payload : Wire.Payload) {c : Client}
    (kept : c.ask (a.request method endpoint payload) ≠ .failed .cancelled) :
    (a.call method endpoint accepted payload).Ends c
      (a.submitted (c.ask (a.request method endpoint payload)) >>= a.settled accepted)
      (c.afterAsk (a.request method endpoint payload))
      (c.asking (a.request method endpoint payload)) := by
  have first := a.submitAction_ends (a.request method endpoint payload) kept
  unfold call
  cases met : a.submitted (c.ask (a.request method endpoint payload)) with
  | error f =>
      rw [met] at first
      exact first.bind_error
  | ok response =>
      rw [met] at first
      rw [← List.append_nil (c.asking _)]
      exact first.bind (a.settle_ends accepted response _)

theorem oneCall_bind (a : Account) (method : Wire.Method) (endpoint : String)
    (accepted : Accepted) (payload : Wire.Payload) {k : Value → Exchange Value}
    {reading : Value → Except Fault Value} (read : ∀ v c, (k v).Ends c (reading v) c []) :
    a.OneCall (a.call method endpoint accepted payload >>= k) (a.request method endpoint payload)
      accepted reading := by
  refine ⟨rfl, ?_⟩
  intro c kept
  have called := a.call_ends method endpoint accepted payload kept
  cases met : a.submitted (c.ask (a.request method endpoint payload)) >>= a.settled accepted with
  | error f =>
      rw [met] at called
      exact called.bind_error
  | ok v =>
      rw [met] at called
      rw [← List.append_nil (c.asking _)]
      exact called.bind (read v _)

theorem oneCall (a : Account) (method : Wire.Method) (endpoint : String)
    (accepted : Accepted) (payload : Wire.Payload) :
    a.OneCall (a.call method endpoint accepted payload) (a.request method endpoint payload)
      accepted .ok := by
  have read := a.oneCall_bind method endpoint accepted payload fun v c => .done v c
  have same : (a.call method endpoint accepted payload >>= Exchange.done) =
      a.call method endpoint accepted payload := Exchange.bind_done _
  rw [same] at read
  exact read

def acceptedBy : Action → Accepted
  | .selectFiles .. | .deleteTorrent _ => .oneOf [204]
  | _ => .success

def readAction (p : Provider) (action : Action) (v : Value) : Except Fault Value :=
  match p, action with
  | .realDebrid, .addMagnet _ => v.member "id" >>= fun _ => .ok v
  | .realDebrid, .torrents => .ok (listOf v)
  | .realDebrid, .selectFiles .. | .realDebrid, .deleteTorrent _ => .ok .null
  | .torbox, .userInfo | .allDebrid, .userInfo => .ok (dataOf v)
  | .torbox, .addMagnet _ => torrentId v >>= fun _ => .ok v
  | .torbox, .torrents => .ok (listOf (v.memberOrNull "data"))
  | _, _ => .ok v

structure Reads (p : Provider) (action : Action) (accepted : Accepted)
    (reading : Value → Except Fault Value) : Prop where
  trips : ∀ v, action.Trips p v → accepted = .success ∧ ∃ kind, reading v = .error (.noMember kind "get")
  takes : ∀ v, ¬ action.Trips p v → ∃ w, reading v = .ok w

theorem reads_whole {p : Provider} {action : Action} {accepted : Accepted} (g : Value → Value)
    (never : ∀ v, ¬ action.Trips p v) : Reads p action accepted fun v => .ok (g v) :=
  ⟨fun v h => absurd h (never v), fun v _ => ⟨g v, rfl⟩⟩

theorem reads_member (link : Value) :
    Reads .realDebrid (.addMagnet link) .success fun v => v.member "id" >>= fun _ => .ok v := by
  constructor
  · intro v other
    refine ⟨rfl, v.kindName, ?_⟩
    cases v with
    | obj members => exact absurd rfl (other members)
    | _ => rfl
  · intro v object
    cases v with
    | obj members => exact ⟨_, rfl⟩
    | _ =>
        refine absurd ?_ object
        intro members same
        cases same

theorem reads_torrentId (link : Value) :
    Reads .torbox (.addMagnet link) .success fun v => torrentId v >>= fun _ => .ok v := by
  have plain (v : Value) (other : ∀ members, v ≠ .obj members) : torrentId v = .ok .null := by
    cases v with
    | obj members => exact absurd rfl (other members)
    | _ => rfl
  have inner (members : List (String × Value)) : torrentId (.obj members) =
      if ((Value.obj members).memberOrNull "data").truthy then
        ((Value.obj members).memberOrNull "data").member "torrent_id"
      else .ok .null := rfl
  constructor
  · intro v ⟨truthy, other⟩
    refine ⟨rfl, (v.memberOrNull "data").kindName, ?_⟩
    cases v with
    | obj members =>
        rw [inner, if_pos truthy]
        cases data : (Value.obj members).memberOrNull "data" with
        | obj ms => exact absurd data (other ms)
        | _ => rfl
    | _ => cases truthy
  · intro v taken
    cases v with
    | obj members =>
        rw [inner]
        by_cases truthy : ((Value.obj members).memberOrNull "data").truthy = true
        · rw [if_pos truthy]
          cases data : (Value.obj members).memberOrNull "data" with
          | obj ms => exact ⟨_, rfl⟩
          | _ =>
              refine absurd ⟨truthy, ?_⟩ taken
              intro ms same
              rw [data] at same
              cases same
        · rw [if_neg truthy]
          exact ⟨_, rfl⟩
    | _ => exact ⟨_, rfl⟩

theorem lift_asMagnet (s : String) (k : String → Exchange Value) :
    (Exchange.lift (Hash.asMagnet (.str s)) >>= k) =
      k (if s.startsWith Hash.magnetScheme then s else Hash.magnet (.str s)) := rfl

theorem reads_action (p : Provider) (action : Action) :
    Reads p action (acceptedBy action) (readAction p action) := by
  cases p with
  | realDebrid =>
      cases action with
      | addMagnet link => exact reads_member link
      | _ => exact reads_whole _ fun _ trips => trips
  | torbox =>
      cases action with
      | addMagnet link => exact reads_torrentId link
      | _ => exact reads_whole _ fun _ trips => trips
  | allDebrid => cases action <;> exact reads_whole _ fun _ trips => trips

theorem lift_spell {v : Value} (brief : v.isBrief = true) (k : String → Exchange Value) :
    (Exchange.lift v.spell >>= k) = k v.text := by
  rw [Value.spell_of_brief brief]
  rfl

/-- An action that is offered is one call and its reading, if a link that it adds is text and the number of
its torrent can be written. -/
theorem act_call {a : Account} {action : Action} (offered : action.offeredBy a.provider = true)
    (linked : ∀ link, action = .addMagnet link → ∃ s, link = .str s)
    (brief : ∀ id ∈ action.numbers, id.isBrief = true) :
    ∃ r, a.OneCall (a.act action) r (acceptedBy action) (readAction a.provider action) := by
  unfold act
  cases provider : a.provider with
  | realDebrid =>
      cases action with
      | addMagnet link =>
          obtain ⟨s, rfl⟩ := linked link rfl
          simp only [actRealDebrid, lift_asMagnet]
          exact ⟨_, a.oneCall_bind .post "/torrents/addMagnet" .success _
            fun v c => .lift_bind fun id => .note (.done v c)⟩
      | torrents => exact ⟨_, a.oneCall_bind .get "/torrents" .success .nothing fun v c => .done _ c⟩
      | torrentInfo id =>
          simp only [actRealDebrid, lift_spell (brief id List.mem_cons_self)]
          exact ⟨_, a.oneCall ..⟩
      | selectFiles id files =>
          simp only [actRealDebrid, lift_spell (brief id List.mem_cons_self)]
          exact ⟨_, a.oneCall_bind .post _ (.oneOf [204]) _ fun v c => .done _ c⟩
      | deleteTorrent id =>
          simp only [actRealDebrid, lift_spell (brief id List.mem_cons_self)]
          exact ⟨_, a.oneCall_bind .delete _ (.oneOf [204]) .nothing fun v c => .done _ c⟩
      | _ => exact ⟨_, a.oneCall ..⟩
  | torbox =>
      rw [provider] at offered
      cases action with
      | userInfo => exact ⟨_, a.oneCall_bind .get "/user/me" .success .nothing fun v c => .done _ c⟩
      | addMagnet link =>
          obtain ⟨s, rfl⟩ := linked link rfl
          simp only [actTorbox, lift_asMagnet]
          exact ⟨_, a.oneCall_bind .post "/torrents/createtorrent" .success _
            fun v c => .lift_bind fun id => .note (.done v c)⟩
      | torrents =>
          exact ⟨_, a.oneCall_bind .get "/torrents/mylist" .success .nothing fun v c => .done _ c⟩
      | _ => cases offered
  | allDebrid =>
      rw [provider] at offered
      cases action with
      | userInfo => exact ⟨_, a.oneCall_bind .get "/user" .success .nothing fun v c => .done _ c⟩
      | addMagnet link =>
          obtain ⟨s, rfl⟩ := linked link rfl
          simp only [actAllDebrid, lift_asMagnet]
          exact ⟨_, a.oneCall_bind .post "/magnet/upload" .success _ fun v c => .note (.done v c)⟩
      | unrestrictLink link => exact ⟨_, a.oneCall ..⟩
      | _ => cases offered

theorem act_oneCall {a : Account} {action : Action} (offered : action.offeredBy a.provider = true)
    (texts : ∀ v ∈ action.arguments, ∃ s, v = .str s) :
    ∃ r accepted reading,
      a.OneCall (a.act action) r accepted reading ∧ Reads a.provider action accepted reading := by
  have linked : ∀ link, action = .addMagnet link → ∃ s, link = .str s := by
    rintro link rfl
    exact texts link List.mem_cons_self
  have brief : ∀ id ∈ action.numbers, id.isBrief = true := by
    intro id member
    have given : id ∈ action.arguments := by
      cases action with
      | torrentInfo | deleteTorrent => exact member
      | selectFiles => exact List.mem_singleton.mp member ▸ List.mem_cons_self
      | _ => cases member
    obtain ⟨s, rfl⟩ := texts id given
    rfl
  obtain ⟨r, call⟩ := act_call offered linked brief
  exact ⟨r, _, _, call, reads_action a.provider action⟩

theorem nonempty_of_deep {r : Response} (deep : r.document = .error (.tooDeep r.body)) :
    ¬ r.body.isEmpty = true := by
  intro empty
  rw [List.isEmpty_iff.mp empty, Response.document, List.isEmpty_iff.mp empty] at deep
  cases deep

/-- Nobody gets over a body that is nested too deep. -/
theorem settled_of_deep (a : Account) (accepted : Accepted) {r : Response}
    (deep : r.document = .error (.tooDeep r.body)) : a.settled accepted r = .error (.tooDeep r.body) := by
  unfold settled errorDetail
  rw [if_neg (nonempty_of_deep deep), deep]
  split <;> rfl

/-- All that a response can be settled to. -/
inductive Settles (a : Account) (accepted : Accepted) (r : Response) : Except Fault Value → Prop
  | deep (deep : r.document = .error (.tooDeep r.body)) : Settles a accepted r (.error (.tooDeep r.body))
  | empty (holds : accepted.holds r = true) (empty : r.body = []) : Settles a accepted r (.ok (.obj []))
  | whole {v : Value} (holds : accepted.holds r = true) (document : r.document = .ok v) :
    Settles a accepted r (.ok v)
  | unreadable (holds : accepted.holds r = true) (document : r.document = .error (.unreadable r.body)) :
    Settles a accepted r (.error (.action a.name (some r.status) "Invalid JSON response"))
  | refused {detail : String} (said : errorDetail a.provider r = .ok detail) :
    Settles a accepted r (.error (.action a.name (some r.status) detail))

theorem settles (a : Account) (accepted : Accepted) (r : Response) :
    a.Settles accepted r (a.settled accepted r) := by
  by_cases deep : r.document = .error (.tooDeep r.body)
  · rw [a.settled_of_deep accepted deep]
    exact .deep deep
  by_cases holds : accepted.holds r = true
  · rw [settled, if_pos holds]
    by_cases empty : r.body.isEmpty = true
    · rw [if_pos empty]
      exact .empty holds (List.isEmpty_iff.mp empty)
    · rw [if_neg empty]
      rcases r.document_cases with ⟨v, document⟩ | document | document
      · rw [document]
        exact .whole holds document
      · rw [document]
        exact .unreadable holds document
      · exact absurd document deep
  · obtain ⟨detail, said⟩ : ∃ detail, errorDetail a.provider r = .ok detail := by
      unfold errorDetail
      rcases r.document_cases with ⟨v, document⟩ | document | document
      · exact ⟨_, by rw [document]⟩
      · exact ⟨_, by rw [document]⟩
      · exact absurd document deep
    rw [settled, if_neg holds, said]
    exact .refused said

theorem settled_failsOnly (a : Account) (accepted : Accepted) {r : Response}
    (shallow : r.document ≠ .error (.tooDeep r.body)) :
    FailsOnly (·.isAction = true) (a.settled accepted r) := by
  intro f failed
  have settles := a.settles accepted r
  rw [failed] at settles
  cases settles with
  | deep deep => exact absurd deep shallow
  | unreadable | refused => rfl

/-- A value that trips the reading of a settled response is the response's own document. -/
theorem document_of_trips {a : Account} {action : Action} {r : Response} {v : Value}
    (settled : a.settled .success r = .ok v) (trips : action.Trips a.provider v) :
    r.isSuccess = true ∧ r.document = .ok v := by
  have object (members : List (String × Value)) (none : members.lookup "data" = none) :
      ¬ action.Trips a.provider (.obj members) := by
    intro trips
    unfold Action.Trips at trips
    split at trips
    · exact trips members rfl
    · rw [Value.memberOrNull, none] at trips
      exact absurd trips.1 (by decide)
    · exact trips
  have settles := a.settles .success r
  rw [settled] at settles
  cases settles with
  | empty => exact absurd trips (object [] rfl)
  | whole holds document => exact ⟨holds, document⟩

theorem settled_of_document {a : Account} {r : Response} {v : Value} (success : r.isSuccess = true)
    (document : r.document = .ok v) : a.settled .success r = .ok v := by
  have nonempty : ¬ r.body.isEmpty = true := by
    intro empty
    have none : r.document = .error (.unreadable []) := by
      rw [Response.document, List.isEmpty_iff.mp empty]
      rfl
    rw [none] at document
    cases document
  rw [settled, if_pos (show Accepted.success.holds r = true from success), if_neg nonempty, document]

/-- What is read of a settled response is refused, but where its body is nested too deep or the reading
trips. -/
theorem read_settled {a : Account} {action : Action} {accepted : Accepted}
    {reading : Value → Except Fault Value} (reads : Reads a.provider action accepted reading)
    (r : Response) :
    ((∃ f, (a.settled accepted r >>= reading) = .error f ∧ f.isAction = false) ↔
      r.document = .error (.tooDeep r.body) ∨
        ∃ v, r.isSuccess = true ∧ r.document = .ok v ∧ action.Trips a.provider v) ∧
    ∀ f, (a.settled accepted r >>= reading) = .error f →
      f.isAction = true ∨ (∃ kind, f = .noMember kind "get") ∨ f = .tooDeep r.body := by
  by_cases deep : r.document = .error (.tooDeep r.body)
  · rw [a.settled_of_deep accepted deep]
    refine ⟨⟨fun _ => .inl deep, fun _ => ⟨_, rfl, rfl⟩⟩, ?_⟩
    rintro f ⟨⟩
    exact .inr (.inr rfl)
  rw [or_iff_right deep]
  cases settles : a.settled accepted r with
  | error f =>
      have refused := a.settled_failsOnly accepted deep f settles
      constructor
      · constructor
        · rintro ⟨g, same, other⟩
          cases same
          rw [refused] at other
          cases other
        · rintro ⟨v, success, document, trips⟩
          rw [(reads.trips v trips).1, settled_of_document success document] at settles
          cases settles
      · intro g same
        cases same
        exact .inl refused
  | ok v =>
      by_cases trips : action.Trips a.provider v
      · obtain ⟨rfl, kind, tripped⟩ := reads.trips v trips
        have result : (Except.ok v >>= reading) = .error (.noMember kind "get") := tripped
        rw [result]
        obtain ⟨success, document⟩ := document_of_trips settles trips
        constructor
        · exact ⟨fun _ => ⟨v, success, document, trips⟩, fun _ => ⟨_, rfl, rfl⟩⟩
        · intro f same
          cases same
          exact .inr (.inl ⟨kind, rfl⟩)
      · obtain ⟨w, taken⟩ := reads.takes v trips
        have result : (Except.ok v >>= reading) = .ok w := taken
        rw [result]
        constructor
        · constructor
          · rintro ⟨f, same, -⟩
            cases same
          · rintro ⟨u, success, document, tripped⟩
            rw [(reads.trips u tripped).1, settled_of_document success document] at settles
            cases settles
            exact absurd tripped trips
        · intro f same
          cases same

/-- An action whose request goes out gives a value or is refused, but in two cases: the body of the response
is nested too deep to be read, or a magnet is added that is accepted with a document from which its number
cannot be read. -/
theorem act_faults {a : Account} {key : String} (credential : a.credential = .str key)
    (ascii : ∀ ch ∈ key.toList, ch.toNat < 128) {action : Action}
    (offered : action.offeredBy a.provider = true)
    (texts : ∀ v ∈ action.arguments, ∃ s, v = .str s) :
    ∃ request : Request,
      (∀ c : Client, c.Steady → (a.act action).dialogue c = c.asking request) ∧
      ((∀ reason, request.prepare ≠ .error (.badAddress reason)) →
        ∀ c : Client, c.isClosed = false →
        ((∃ r, c.reply = .answered r) ∨
          ∃ kind message, c.reply = .failed (.transport kind message)) →
        ((∃ f, ((a.act action).run c).result = .error f ∧ f.isAction = false) ↔
          ∃ r, c.reply = .answered r ∧ (r.document = .error (.tooDeep r.body) ∨
            ∃ v, r.isSuccess = true ∧ r.document = .ok v ∧ action.Trips a.provider v)) ∧
        ∀ f, ((a.act action).run c).result = .error f →
          f.isAction = true ∨ (∃ kind, f = .noMember kind "get") ∨
            ∃ r, c.reply = .answered r ∧ f = .tooDeep r.body) := by
  obtain ⟨request, accepted, reading, call, reads⟩ := act_oneCall offered texts
  refine ⟨request, fun c steady => (call.ends c (steady.ask request)).dialogue, ?_⟩
  intro sendable c isOpen met
  have header := checkHeader_authorization credential ascii
  rw [← call.authorization] at header
  have goes := Client.ask_eq_reply c header sendable
  have kept : c.ask request ≠ .failed .cancelled := by
    rw [goes]
    rcases met with ⟨r, answered⟩ | ⟨kind, message, failed⟩
    · exact Outcome.met_of_answered answered
    · rw [failed]
      intro same
      cases same
  rw [(call.ends c kept).result, goes]
  rcases met with ⟨r, answered⟩ | ⟨kind, message, failed⟩
  · rw [answered]
    obtain ⟨faults, kinds⟩ := read_settled reads r
    refine ⟨faults.trans ⟨fun here => ⟨r, rfl, here⟩, ?_⟩, fun f same => ?_⟩
    · rintro ⟨_, ⟨⟩, here⟩
      exact here
    · exact (kinds f same).imp_right (Or.imp_right fun deep => ⟨r, rfl, deep⟩)
  · rw [failed]
    constructor
    · constructor
      · rintro ⟨f, same, other⟩
        cases same
        cases other
      · rintro ⟨r, same, -⟩
        cases same
    · intro f same
      cases same
      exact .inl rfl

def sample : Account := ⟨.realDebrid, .str "key-123456", .null, .int 40, .float .half, .null⟩

/-- A server that accepts every request with a list instead of an object. -/
def listing : Client := ⟨false, [], .answered ⟨201, [91, 49, 93], 1000⟩⟩

theorem act_faults_of_list :
    ∃ f, ((sample.act (.addMagnet (.str "abc"))).run listing).result = .error f ∧
      f.isAction = false := by
  have steady : listing.Steady := Client.steady_always (Outcome.met_of_answered rfl)
  have texts : ∀ v ∈ (Action.addMagnet (.str "abc")).arguments, ∃ s, v = .str s := by
    intro v member
    exact ⟨"abc", List.mem_singleton.mp member⟩
  have ascii : ∀ ch ∈ "key-123456".toList, ch.toNat < 128 := Wire.forall_of_all (by decide)
  obtain ⟨request, spoken, faults⟩ := act_faults (a := sample) rfl ascii rfl texts
  have sendable : ∀ reason, request.prepare ≠ .error (.badAddress reason) := by
    intro reason bad
    have said := spoken listing steady
    rw [Client.asking, bad] at said
    cases said
  exact (faults sendable listing rfl (.inl ⟨_, rfl⟩)).1.mpr
    ⟨_, rfl, .inr ⟨.arr [.int 1], rfl, rfl, fun members same => by cases same⟩⟩

theorem act_faults_not_refused :
    (Action.addMagnet (.str "abc")).offeredBy sample.provider = true ∧
      sample.credential = .str "key-123456" ∧ listing.isClosed = false ∧
      listing.reply = .answered ⟨201, [91, 49, 93], 1000⟩ ∧
      ((sample.act (.addMagnet (.str "abc"))).run listing).result = .error (.noMember "list" "get") ∧
      (Fault.noMember "list" "get").isAction = false :=
  ⟨rfl, rfl, rfl, rfl, rfl, rfl⟩

end Account
end DebridCache
