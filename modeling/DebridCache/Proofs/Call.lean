import DebridCache.Proofs.Composed
import DebridCache.Proofs.Action
import DebridCache.Proofs.Json.Limits

/-!
What a call makes of each outcome. A broken transport and a refusal are failed actions with a detail that
says something, whatever bytes the refusal comes with; what is accepted is the document in the body, or an
empty object where the body is empty. A body that is nested too deep to be read has the better of both.
-/

namespace DebridCache

open Wire (Sent Outcome Response)

namespace Numerals

theorem digitsOf_ne_nil (n : Nat) : digitsOf n ≠ [] := Nat.toDigits_ne_nil

theorem positional_ne_nil (n : Numerals) {digits : List Char} (some : digits ≠ []) (point : Int) :
    n.positional digits point ≠ [] := by
  unfold positional
  split
  · nofun
  · split <;> simp [some]

theorem magnitude_ne_nil (n : Numerals) (units : Nat) : n.magnitude units ≠ [] := by
  unfold magnitude
  simp only
  split
  · exact n.positional_ne_nil (digitsOf_ne_nil _) _
  · exact List.append_ne_nil_of_right_ne_nil _ (digitsOf_ne_nil _)

end Numerals

namespace Value

theorem quoted_ne_nil (v : Value) : v.quoted ≠ [] := by
  cases v with
  | null => decide
  | bool b => cases b <;> decide
  | int n =>
      cases n with
      | ofNat m =>
          change m.repr.toList ≠ []
          rw [Nat.toList_repr]
          exact Nat.toDigits_ne_nil
      | negSucc m => simp [quoted, Int.toString_eq_repr, Int.repr]
  | float x =>
      cases x with
      | finite negative units => simp [quoted, Numerals.render, Numerals.magnitude_ne_nil]
      | _ => simp [quoted, Numerals.render, Numerals.text]
  | str s => nofun
  | arr items => cases items <;> simp [quoted]
  | obj members => cases members <;> simp [quoted]

theorem text_of_truthy {v : Value} (given : v.truthy = true) : v.text ≠ "" := by
  unfold text
  split
  · exact of_decide_eq_true given
  · intro blank
    exact v.quoted_ne_nil (by simpa using blank)

theorem orElse_eq_find (v w : Value) : v.orElse w = ([v].find? truthy).getD w := by
  rw [orElse, List.find?_cons]
  cases v.truthy <;> rfl

theorem orElse_orElse_eq_find (u v w : Value) : (u.orElse v).orElse w = ([u, v].find? truthy).getD w := by
  cases given : u.truthy with
  | true => simp [orElse, given]
  | false =>
      have next : [u, v].find? truthy = [v].find? truthy := List.find?_cons_of_neg (by simp [given])
      have other : u.orElse v = v := by simp [orElse, given]
      rw [next, other, orElse_eq_find]

end Value

namespace Provider

def reasons (p : Provider) (members : List (String × Value)) : List Value :=
  let body := Value.obj members
  match p with
  | .realDebrid => [body.memberOrNull "error"]
  | .torbox => [body.memberOrNull "error", body.memberOrNull "detail"]
  | .allDebrid =>
    match body.memberOrNull "error" with
    | .obj error => [(Value.obj error).memberOrNull "message", (Value.obj error).memberOrNull "code"]
    | error => [body.memberOrNull "detail", error]

/-- The detail is the first reason that counts as true, where there is an object with one. -/
structure Explains (p : Provider) (r : Response) (detail : String) : Prop where
  shapeless : (∀ members, r.document ≠ .ok (.obj members)) → detail = "Unknown"
  silent : ∀ members, r.document = .ok (.obj members) →
    (∀ reason ∈ p.reasons members, reason.truthy = false) → detail = "Unknown"
  given : ∀ members reason, r.document = .ok (.obj members) →
    (p.reasons members).find? Value.truthy = some reason → detail = reason.text

end Provider

namespace Account

theorem errorDetail_of_object (p : Provider) {r : Response} {members : List (String × Value)}
    (document : r.document = .ok (.obj members)) :
    errorDetail p r = .ok (((p.reasons members).find? Value.truthy).getD (.str "Unknown")).text := by
  unfold errorDetail
  rw [document]
  refine congrArg Except.ok ?_
  cases p with
  | realDebrid => exact congrArg Value.text (Value.orElse_eq_find _ _)
  | torbox => exact congrArg Value.text (Value.orElse_orElse_eq_find _ _ _)
  | allDebrid =>
      refine congrArg Value.text ?_
      simp only [Provider.reasons]
      cases (Value.obj members).memberOrNull "error" <;> exact Value.orElse_orElse_eq_find _ _ _

theorem errorDetail_of_shapeless (p : Provider) {r : Response}
    (shallow : r.document ≠ .error (.tooDeep r.body))
    (shapeless : ∀ members, r.document ≠ .ok (.obj members)) : errorDetail p r = .ok "Unknown" := by
  unfold errorDetail
  rcases r.document_cases with ⟨v, document⟩ | document | document
  · rw [document]
    cases v with
    | obj members => exact absurd document (shapeless members)
    | _ => rfl
  · rw [document]
  · exact absurd document shallow

/-- Where the body is not nested too deep there is a detail, and it says something. -/
theorem errorDetail_explains (p : Provider) {r : Response}
    (shallow : r.document ≠ .error (.tooDeep r.body)) :
    ∃ detail, errorDetail p r = .ok detail ∧ p.Explains r detail ∧ detail ≠ "" := by
  by_cases object : ∃ members, r.document = .ok (.obj members)
  · obtain ⟨members, document⟩ := object
    have same {others : List (String × Value)} (other : r.document = .ok (.obj others)) :
        others = members := by
      rw [document] at other
      cases other
      rfl
    refine ⟨_, errorDetail_of_object p document, ⟨fun none => absurd document (none members), ?_, ?_⟩, ?_⟩
    · intro others other silent
      cases same other
      have none : (p.reasons members).find? Value.truthy = none := by simpa using silent
      rw [none]
      rfl
    · intro others reason other given
      cases same other
      rw [given, Option.getD_some]
    · cases given : (p.reasons members).find? Value.truthy with
      | none => decide
      | some reason => exact Value.text_of_truthy (List.find?_some given)
  · have shapeless := not_exists.mp object
    refine ⟨"Unknown", errorDetail_of_shapeless p shallow shapeless, ⟨fun _ => rfl, ?_, ?_⟩, by decide⟩
    · intro members document
      exact absurd document (shapeless members)
    · intro members reason document
      exact absurd document (shapeless members)

/-- What is not settled has failed as an action, with a detail. -/
theorem detail_of_settled {a : Account} {accepted : Accepted} {r : Response} {f : Fault}
    (shallow : r.document ≠ .error (.tooDeep r.body)) (failed : a.settled accepted r = .error f) :
    ∃ detail, f = .action a.name (some r.status) detail ∧ detail ≠ "" := by
  have settles := a.settles accepted r
  rw [failed] at settles
  cases settles with
  | deep deep => exact absurd deep shallow
  | unreadable => exact ⟨_, rfl, by decide⟩
  | refused said =>
      obtain ⟨detail, same, -, some⟩ := errorDetail_explains a.provider shallow
      rw [said] at same
      cases same
      exact ⟨_, rfl, some⟩

def Accepted.Admits : Accepted → Nat → Prop
  | .success, status => 200 ≤ status ∧ status ≤ 299
  | .oneOf statuses, status => status ∈ statuses

theorem Accepted.holds_iff (accepted : Accepted) (r : Response) :
    accepted.holds r = true ↔ accepted.Admits r.status := by
  cases accepted with
  | success =>
      simp only [holds, Response.isSuccess, Admits, Bool.and_eq_true, decide_eq_true_eq]
      omega
  | oneOf statuses => exact decide_eq_true_iff

/-- What a call comes to with one outcome of its request. -/
structure Classifies (a : Account) (accepted : Accepted) (o : Outcome) (result : Except Fault Value) :
    Prop where
  broken : ∀ kind message, o = .failed (.transport kind message) →
    result = .error (.action a.name none (if message = "" then kind else message))
  /-- What a body nested too deep comes to, whatever its status is. -/
  deep : ∀ r, o = .answered r → r.document = .error (.tooDeep r.body) → result = .error (.tooDeep r.body)
  refused : ∀ r, o = .answered r → ¬ accepted.Admits r.status → r.document ≠ .error (.tooDeep r.body) →
    ∃ detail, result = .error (.action a.name (some r.status) detail) ∧ a.provider.Explains r detail
  empty : ∀ r, o = .answered r → accepted.Admits r.status → r.body = [] → result = .ok (.obj [])
  unreadable : ∀ r, o = .answered r → accepted.Admits r.status → r.body ≠ [] →
    r.document = .error (.unreadable r.body) →
    result = .error (.action a.name (some r.status) "Invalid JSON response")
  whole : ∀ r v, o = .answered r → accepted.Admits r.status → r.body ≠ [] → r.document = .ok v →
    result = .ok v
  /-- A failure is described, if a broken transport has at least a kind with a name. -/
  usable : (∀ message, o ≠ .failed (.transport "" message)) →
    (∀ r, o = .answered r → r.document ≠ .error (.tooDeep r.body)) → ∀ f, result = .error f →
    ∃ status detail, f = .action a.name status detail ∧ detail ≠ ""

theorem settled_classifies (a : Account) (accepted : Accepted) (r : Response) :
    a.Classifies accepted (.answered r) (a.settled accepted r) := by
  have holds := accepted.holds_iff r
  constructor
  · intro kind message same
    cases same
  · rintro _ ⟨⟩ deep
    exact a.settled_of_deep accepted deep
  · rintro _ ⟨⟩ refused shallow
    obtain ⟨detail, said, explains, -⟩ := errorDetail_explains a.provider shallow
    refine ⟨detail, ?_, explains⟩
    rw [settled, if_neg (mt holds.mp refused), said]
    rfl
  · rintro _ ⟨⟩ admits empty
    rw [settled, if_pos (holds.mpr admits), if_pos (List.isEmpty_iff.mpr empty)]
  · rintro _ ⟨⟩ admits some unreadable
    rw [settled, if_pos (holds.mpr admits), if_neg (mt List.isEmpty_iff.mp some), unreadable]
  · rintro _ v ⟨⟩ admits some document
    rw [settled, if_pos (holds.mpr admits), if_neg (mt List.isEmpty_iff.mp some), document]
  · intro kinded shallow f failed
    exact ⟨_, detail_of_settled (shallow r rfl) failed⟩

theorem submitted_classifies (a : Account) (accepted : Accepted) {o : Outcome}
    (met : (∃ r, o = .answered r) ∨ ∃ kind message, o = .failed (.transport kind message)) :
    a.Classifies accepted o (a.submitted o >>= a.settled accepted) := by
  rcases met with ⟨r, rfl⟩ | ⟨kind, message, rfl⟩
  · exact a.settled_classifies accepted r
  · constructor
    case broken =>
      rintro _ _ ⟨⟩
      rfl
    case usable =>
      rintro kinded - _ ⟨⟩
      refine ⟨none, _, rfl, ?_⟩
      unfold transportDetail
      split
      · rintro rfl
        exact kinded message rfl
      · assumption
    all_goals nofun

/-- A call whose request can be sent sends it once, whatever comes of it, and what comes of it is a value
or a failed action, for each response and each failure of the transport. Only of a body that is nested too
deep to be read comes another fault. -/
theorem call_classified (a : Account) (method : Wire.Method) (endpoint : String) (accepted : Accepted)
    (payload : Wire.Payload) {sent : Sent} (prepared : (a.request method endpoint payload).prepare = .ok sent)
    {c : Client} (isOpen : c.isClosed = false)
    (met : (∃ r, c.reply = .answered r) ∨ ∃ kind message, c.reply = .failed (.transport kind message)) :
    ((a.call method endpoint accepted payload).run c).events = [.sent sent] ∧
      a.Classifies accepted c.reply ((a.call method endpoint accepted payload).run c).result := by
  have asked := Client.ask_of_prepare prepared c
  have kept : c.reply ≠ .failed .cancelled := by
    rcases met with ⟨r, answered⟩ | ⟨kind, message, failed⟩
    · exact Outcome.met_of_answered answered
    · rw [failed]
      nofun
  have ends := a.call_ends method endpoint accepted payload (asked ▸ kept)
  constructor
  · rw [(a.call_composed method endpoint accepted payload).wakeful.events, ends.dialogue,
      Client.asking_of_prepare prepared isOpen]
    rfl
  · rw [ends.result, asked]
    exact a.submitted_classifies accepted met

def refusedByCode : Response :=
  ⟨403, [123, 34, 101, 114, 114, 111, 114, 34, 58, 123, 34, 109, 101, 115, 115, 97, 103, 101, 34, 58, 34,
    34, 44, 34, 99, 111, 100, 101, 34, 58, 34, 65, 85, 84, 72, 34, 125, 125], 1000⟩

theorem call_classified_of_refusals :
    (∃ sent, ((sample.call .get "/user" .success .nothing).run
        ⟨false, [], .answered ⟨500, [255, 123], 1000⟩⟩).events = [.sent sent]) ∧
      ((sample.call .get "/user" .success .nothing).run ⟨false, [], .answered ⟨500, [255, 123], 1000⟩⟩).result =
        .error (.action "Real-Debrid" (some 500) "Unknown") ∧
      ((sample.call .get "/user" .success .nothing).run
          ⟨false, [], .failed (.transport "ReadTimeout" "")⟩).result =
        .error (.action "Real-Debrid" none "ReadTimeout") ∧
      ((Account.call { sample with provider := .allDebrid } .get "/user" (.oneOf [200]) .nothing).run
          ⟨false, [], .answered refusedByCode⟩).result =
        .error (.action "AllDebrid" (some 403) "AUTH") := by
  obtain ⟨events, unknown⟩ := sample.call_classified .get "/user" .success .nothing rfl
    (c := ⟨false, [], .answered ⟨500, [255, 123], 1000⟩⟩) rfl (.inl ⟨_, rfl⟩)
  obtain ⟨-, broken⟩ := sample.call_classified .get "/user" .success .nothing rfl
    (c := ⟨false, [], .failed (.transport "ReadTimeout" "")⟩) rfl (.inr ⟨_, _, rfl⟩)
  obtain ⟨-, coded⟩ := Account.call_classified { sample with provider := .allDebrid } .get "/user"
    (.oneOf [200]) .nothing rfl (c := ⟨false, [], .answered refusedByCode⟩) rfl (.inl ⟨_, rfl⟩)
  refine ⟨⟨_, events⟩, ?_, broken.broken _ _ rfl, ?_⟩
  · obtain ⟨detail, result, explains⟩ := unknown.refused _ rfl (by simp [Accepted.Admits]) nofun
    rw [result, explains.shapeless nofun]
    rfl
  · obtain ⟨detail, result, explains⟩ := coded.refused _ rfl
      (by simp [Accepted.Admits, refusedByCode]) nofun
    rw [result, explains.given _ (.str "AUTH") rfl rfl]
    rfl

/-- A failing server whose body opens more brackets than there is room for. -/
def deepBody : Response := ⟨500, List.replicate 100000 91, 1000⟩

/-- The failure is lost over its body: instead of it comes the fault of reading the body. -/
theorem call_not_classified_deep :
    (∃ sent, (sample.request .get "/user" .nothing).prepare = .ok sent) ∧
      ¬ Accepted.success.Admits deepBody.status ∧
      ((sample.call .get "/user" .success .nothing).run ⟨false, [], .answered deepBody⟩).result =
        .error (.tooDeep deepBody.body) ∧
      (Fault.tooDeep deepBody.body).isAction = false := by
  have read : Json.read deepBody.room deepBody.body = .error .tooDeep := Json.read_deep (by decide)
  have deep : deepBody.document = .error (.tooDeep deepBody.body) := by
    rw [Response.document, read]
  have lost (r : Response) (deep : r.document = .error (.tooDeep r.body)) :
      ((sample.call .get "/user" .success .nothing).run ⟨false, [], .answered r⟩).result =
        .error (.tooDeep r.body) := by
    have ends := sample.call_ends .get "/user" .success .nothing (c := ⟨false, [], .answered r⟩)
      (Outcome.met_of_answered rfl)
    rw [ends.result]
    exact sample.settled_of_deep .success deep
  have refused : ¬ Accepted.success.Admits 500 := by simp [Accepted.Admits]
  exact ⟨⟨_, rfl⟩, refused, lost deepBody deep, rfl⟩

end Account
end DebridCache
