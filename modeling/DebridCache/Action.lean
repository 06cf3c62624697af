import DebridCache.Account
import DebridCache.Availability.Answer

/-!
What a user can ask of an account. An action that fails says so, in the provider's own words where it
gives any.
-/

namespace DebridCache

inductive Action where
  | userInfo
  | addMagnet (link : Value)
  | torrents
  | torrentInfo (id : Value)
  | selectFiles (id files : Value)
  | deleteTorrent (id : Value)
  | unrestrictLink (link : Value)
  deriving Repr, Inhabited

namespace Action

def everyFile : Value := .str "all"

def name : Action → String
  | .userInfo => "get_user_info"
  | .addMagnet _ => "add_magnet"
  | .torrents => "get_torrents"
  | .torrentInfo _ => "get_torrent_info"
  | .selectFiles .. => "select_files"
  | .deleteTorrent _ => "delete_torrent"
  | .unrestrictLink _ => "unrestrict_link"

def offeredBy : Action → Provider → Bool
  | _, .realDebrid => true
  | .userInfo, _ | .addMagnet _, _ => true
  | .torrents, .torbox => true
  | .unrestrictLink _, .allDebrid => true
  | _, _ => false

end Action

namespace Account

inductive Accepted where
  | success
  | oneOf (statuses : List Nat)
  deriving DecidableEq, Repr

def Accepted.holds (accepted : Accepted) (r : Wire.Response) : Bool :=
  match accepted with
  | .success => r.isSuccess
  | .oneOf statuses => r.status ∈ statuses

def detailText (v : Value) : String := (v.orElse (.str "Unknown")).text

def reasonIn (provider : Provider) (body : Value) : String :=
  match body with
  | .obj _ =>
    match provider with
    | .realDebrid => detailText (body.memberOrNull "error")
    | .torbox => detailText ((body.memberOrNull "error").orElse (body.memberOrNull "detail"))
    | .allDebrid => Availability.refusal body
  | _ => "Unknown"

/-- The reason that a provider gives in the body of a failure. A body that is no document gives none; one
that is nested too deep is not got over. -/
def errorDetail (provider : Provider) (r : Wire.Response) : Except Fault String :=
  match r.document with
  | .ok body => .ok (reasonIn provider body)
  | .error (.unreadable _) => .ok "Unknown"
  | .error f => .error f

def excerptLength : Nat := 200

/-- A failed transport in its own words, or by its kind when it has none. -/
def transportDetail (kind message : String) : String := if message = "" then kind else message

/-- Sends the request of an action. Only a failing transport becomes a failed action here. -/
def submitAction (a : Account) (r : Wire.Request) : Exchange Wire.Response := do
  match ← (Exchange.submit r).attempt with
  | .ok response => return response
  | .error (.transport kind message) =>
    Exchange.log .error (a.name ++ " request failed: " ++ message)
    .fail (.action a.name none (transportDetail kind message))
  | .error f => .fail f

/-- What a response to an action holds: an empty body stands for an empty object. -/
def settle (a : Account) (accepted : Accepted) (r : Wire.Response) : Exchange Value :=
  if accepted.holds r then
    if r.body.isEmpty then return .obj []
    else
      match r.document with
      | .ok v => return v
      | .error (.unreadable _) => do
        Exchange.log .error (a.name ++ " returned an invalid JSON body: " ++
          String.ofList (r.text.take excerptLength))
        .fail (.action a.name (some r.status) "Invalid JSON response")
      | .error f => .fail f
  else do
    let detail ← Exchange.lift (errorDetail a.provider r)
    Exchange.log .error (a.name ++ " API error: " ++ toString r.status ++ " - " ++ detail)
    .fail (.action a.name (some r.status) detail)

def call (a : Account) (method : Wire.Method) (endpoint : String) (accepted : Accepted)
    (payload : Wire.Payload) : Exchange Value := do
  let response ← a.submitAction (a.request method endpoint payload)
  a.settle accepted response

/-- The `data` member of an object, an empty object where it has none and where there is no object. -/
def dataOf : Value → Value
  | .obj members => (members.lookup "data").getD (.obj [])
  | _ => .obj []

def listOf : Value → Value
  | .arr items => .arr items
  | _ => .arr []

def torrentId (result : Value) : Except Fault Value :=
  match result with
  | .obj _ =>
    let data := result.memberOrNull "data"
    if data.truthy then data.member "torrent_id" else .ok .null
  | _ => .ok .null

def notOffered (provider : Provider) (action : Action) : Fault :=
  .noMember provider.serviceName action.name

def actRealDebrid (a : Account) : Action → Exchange Value
  | .userInfo => a.call .get "/user" .success .nothing
  | .addMagnet link => do
    let magnet ← Exchange.lift (Hash.asMagnet link)
    let result ← a.call .post "/torrents/addMagnet" .success (.form [("magnet", .str magnet)])
    let id ← Exchange.lift (result.member "id")
    Exchange.log .info ("Real-Debrid: Added torrent -> ID: " ++ id.text)
    return result
  | .torrents => do
    return listOf (← a.call .get "/torrents" .success .nothing)
  | .torrentInfo id => do
    let id ← Exchange.lift id.spell
    a.call .get ("/torrents/info/" ++ id) .success .nothing
  | .selectFiles id files => do
    let id ← Exchange.lift id.spell
    let _ ← a.call .post ("/torrents/selectFiles/" ++ id) (.oneOf [204]) (.form [("files", files)])
    return .null
  | .deleteTorrent id => do
    let id ← Exchange.lift id.spell
    let _ ← a.call .delete ("/torrents/delete/" ++ id) (.oneOf [204]) .nothing
    return .null
  | .unrestrictLink link => a.call .post "/unrestrict/link" .success (.form [("link", link)])

def actTorbox (a : Account) : Action → Exchange Value
  | .userInfo => do
    return dataOf (← a.call .get "/user/me" .success .nothing)
  | .addMagnet link => do
    let magnet ← Exchange.lift (Hash.asMagnet link)
    let result ← a.call .post "/torrents/createtorrent" .success
      (.json (.obj [("magnet", .str magnet)]))
    let id ← Exchange.lift (torrentId result)
    Exchange.log .info ("Torbox: Added torrent -> ID: " ++ id.text)
    return result
  | .torrents => do
    let result ← a.call .get "/torrents/mylist" .success .nothing
    return listOf (result.memberOrNull "data")
  | action => .fail (notOffered .torbox action)

def actAllDebrid (a : Account) : Action → Exchange Value
  | .userInfo => do
    return dataOf (← a.call .get "/user" .success .nothing)
  | .addMagnet link => do
    let magnet ← Exchange.lift (Hash.asMagnet link)
    let result ← a.call .post "/magnet/upload" .success (.form [("magnets[]", .str magnet)])
    Exchange.log .info "AllDebrid: Uploaded magnet"
    return result
  | .unrestrictLink link => a.call .post "/link/unlock" .success (.form [("link", link)])
  | action => .fail (notOffered .allDebrid action)

def act (a : Account) (action : Action) : Exchange Value :=
  match a.provider with
  | .realDebrid => a.actRealDebrid action
  | .torbox => a.actTorbox action
  | .allDebrid => a.actAllDebrid action

end Account
end DebridCache
