import DebridCache.Proofs.Action
import DebridCache.Proofs.Availability.Answer

/-!
Bodies that report a failure under a status that is a success. A check takes them for refusals; an action
looks at the status alone, and reads such a body as it reads any other.
-/

namespace DebridCache

open Wire (Sent Response)

/-- A body whose own mark says that the request failed. -/
def Provider.Fails (p : Provider) (members : List (String × Value)) : Prop :=
  match p with
  | .realDebrid => False
  | .torbox => members.lookup "success" = some (.bool false)
  | .allDebrid => members.lookup "status" = some (.str "error")

namespace Account

/-- A check reads a body that reports a failure as a refusal, whatever was asked about. -/
theorem read_of_fails {p : Provider} {members : List (String × Value)} (fails : p.Fails members)
    (batch : List String) :
    ∃ reason, Availability.read p batch (.obj members) = .ok (.refused reason) := by
  cases p with
  | realDebrid => exact fails.elim
  | torbox =>
      have mark : (Value.obj members).member "success" = .ok (.bool false) := by
        rw [Value.member, show members.lookup "success" = _ from fails]
        rfl
      simp only [Availability.read, Availability.readMembers, mark]
      exact ⟨_, rfl⟩
  | allDebrid =>
      have mark : (Value.obj members).member "status" = .ok (.str "error") := by
        rw [Value.member, show members.lookup "status" = _ from fails]
        rfl
      simp only [Availability.read, Availability.readMagnets, mark]
      exact ⟨_, rfl⟩

/-- What an action gives for the body of its response: the data in it, a list of them, or the body. -/
def gives (action : Action) (body : Value) : Value :=
  match action with
  | .userInfo => dataOf body
  | .torrents => listOf (body.memberOrNull "data")
  | _ => body

theorem readAction_of_not_trips {p : Provider} {action : Action} {v : Value} (other : p ≠ .realDebrid)
    (offered : action.offeredBy p = true) (taken : ¬ action.Trips p v) :
    readAction p action v = .ok (gives action v) := by
  obtain ⟨w, read⟩ := (reads_action p action).takes v taken
  cases p with
  | realDebrid => exact absurd rfl other
  | torbox =>
      cases action with
      | addMagnet link =>
          obtain ⟨id, -, same⟩ := ok_of_bind_ok read
          cases same
          exact read
      | userInfo | torrents => rfl
      | _ => cases offered
  | allDebrid =>
      cases action with
      | userInfo | addMagnet | unrestrictLink => rfl
      | _ => cases offered

theorem acceptedBy_success {p : Provider} {action : Action} (other : p ≠ .realDebrid)
    (offered : action.offeredBy p = true) : acceptedBy action = .success := by
  cases p with
  | realDebrid => exact absurd rfl other
  | _ =>
      cases action with
      | selectFiles | deleteTorrent => cases offered
      | _ => rfl

theorem linked_of_sends {a : Account} {action : Action} {c : Client}
    (sends : (a.act action).dialogue c ≠ []) : ∀ link, action = .addMagnet link → ∃ s, link = .str s := by
  rintro link rfl
  cases link with
  | str s => exact ⟨s, rfl⟩
  | _ =>
      refine absurd ?_ sends
      unfold act
      cases a.provider <;> rfl

theorem brief_of_sends {a : Account} {action : Action} {c : Client}
    (sends : (a.act action).dialogue c ≠ []) : ∀ id ∈ action.numbers, id.isBrief = true := by
  intro id member
  cases brief : id.isBrief with
  | true => rfl
  | false =>
      refine absurd ?_ sends
      have long := Value.spell_of_long brief
      unfold act
      cases action with
      | torrentInfo | deleteTorrent | selectFiles =>
          cases List.mem_singleton.mp member
          cases a.provider with
          | realDebrid =>
              simp only [actRealDebrid, long]
              rfl
          | _ => rfl
      | _ => cases member

/-- An action whose request goes out ends with its reading of the response. -/
theorem act_of_answered {a : Account} {action : Action} (offered : action.offeredBy a.provider = true)
    {c : Client} {r : Response} (answered : c.reply = .answered r) (sends : (a.act action).dialogue c ≠ []) :
    ((a.act action).run c).result =
      (a.settled (acceptedBy action) r >>= readAction a.provider action) := by
  obtain ⟨request, call⟩ := act_call offered (linked_of_sends sends) (brief_of_sends sends)
  have kept : c.ask request ≠ .failed .cancelled := by
    intro withdrawn
    have reply := (Client.asking_of_cancelled withdrawn).1
    rw [answered] at reply
    cases reply
  have ends := call.ends c kept
  rw [ends.dialogue, Client.asking] at sends
  cases prepared : request.prepare with
  | error f =>
      rw [prepared] at sends
      exact absurd rfl sends
  | ok sent =>
      rw [ends.result, Client.ask_of_prepare prepared, answered]
      rfl

/-- An action takes a body that reports a failure for the answer: it gives what is in it, and where the
number of a magnet cannot be read from it, it fails as for any other body. It never fails as an action,
though a check of the same provider would have read a refusal. -/
theorem act_unheeding {a : Account} {action : Action} (offered : action.offeredBy a.provider = true)
    {c : Client} {r : Response} {members : List (String × Value)} (answered : c.reply = .answered r)
    (sends : (a.act action).dialogue c ≠ []) (success : r.isSuccess = true)
    (document : r.document = .ok (.obj members)) (fails : a.provider.Fails members) :
    (∀ batch, ∃ reason, Availability.read a.provider batch (.obj members) = .ok (.refused reason)) ∧
      (¬ action.Trips a.provider (.obj members) →
        ((a.act action).run c).result = .ok (gives action (.obj members))) ∧
      (action.Trips a.provider (.obj members) →
        ∃ kind, ((a.act action).run c).result = .error (.noMember kind "get")) ∧
      ∀ f, ((a.act action).run c).result = .error f → f.isAction = false := by
  have other : a.provider ≠ .realDebrid := by
    intro same
    rw [same] at fails
    exact fails
  have result : ((a.act action).run c).result = readAction a.provider action (.obj members) := by
    rw [act_of_answered offered answered sends, acceptedBy_success other offered,
      settled_of_document success document]
    rfl
  have given : ¬ action.Trips a.provider (.obj members) →
      ((a.act action).run c).result = .ok (gives action (.obj members)) := fun taken =>
    result.trans (readAction_of_not_trips other offered taken)
  have tripped (trips : action.Trips a.provider (.obj members)) :
      ∃ kind, ((a.act action).run c).result = .error (.noMember kind "get") := by
    obtain ⟨-, kind, read⟩ := (reads_action a.provider action).trips _ trips
    exact ⟨kind, result.trans read⟩
  refine ⟨read_of_fails fails, given, tripped, fun f failed => ?_⟩
  by_cases trips : action.Trips a.provider (.obj members)
  · obtain ⟨kind, tripped⟩ := tripped trips
    rw [tripped] at failed
    cases failed
    rfl
  · rw [given trips] at failed
    cases failed

def refusedByMark : Response :=
  ⟨200, [123, 34, 115, 117, 99, 99, 101, 115, 115, 34, 58, 102, 97, 108, 115, 101, 44, 34, 101,
    114, 114, 111, 114, 34, 58, 34, 110, 111, 34, 125], 1000⟩

def refusing : Client := ⟨false, [], .answered refusedByMark⟩

def refusedMembers : List (String × Value) := [("success", .bool false), ("error", .str "no")]

theorem act_unheeding_of_magnet :
    refusedByMark.isSuccess = true ∧ refusedByMark.document = .ok (.obj refusedMembers) ∧
      Provider.torbox.Fails refusedMembers ∧
      ((Account.act { sample with provider := .torbox } (.addMagnet (.str "abc"))).run refusing).result =
        .ok (.obj refusedMembers) := by
  have sends : (Account.act { sample with provider := .torbox } (.addMagnet (.str "abc"))).dialogue
      refusing ≠ [] := List.cons_ne_nil _ _
  have document : refusedByMark.document = .ok (.obj refusedMembers) := rfl
  obtain ⟨-, given, -⟩ := act_unheeding (a := { sample with provider := .torbox }) rfl
    (show refusing.reply = .answered refusedByMark from rfl) sends rfl document rfl
  exact ⟨rfl, rfl, rfl, given fun trips => absurd trips.1 (by decide)⟩

/-- An account that was not found is given as one without any data. -/
theorem act_unheeding_not_refused :
    Action.userInfo.offeredBy .torbox = true ∧ refusedByMark.isSuccess = true ∧
      refusedByMark.document = .ok (.obj refusedMembers) ∧ Provider.torbox.Fails refusedMembers ∧
      errorDetail .torbox refusedByMark = .ok "no" ∧
      ((Account.act { sample with provider := .torbox } .userInfo).run refusing).result =
        .ok (.obj []) :=
  ⟨rfl, rfl, rfl, rfl, rfl, rfl⟩

end Account
end DebridCache
