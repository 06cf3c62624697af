import DebridCache.Wire.Address
import DebridCache.Json.Reader
import DebridCache.Json.Writer

/-!
Requests before and after they are put into the form that is sent, and the responses to them.
-/

namespace DebridCache.Wire

inductive Method where
  | get
  | post
  | delete
  deriving DecidableEq, Repr, Inhabited

def Method.text : Method → String
  | .get => "GET"
  | .post => "POST"
  | .delete => "DELETE"

inductive Payload where
  | nothing
  | form (fields : Fields)
  | json (document : Value)
  deriving Repr, Inhabited

structure Request where
  method : Method
  site : Site
  endpoint : String
  authorization : Option String
  /-- Fields that take the place of the endpoint's own query. -/
  query : Option Fields
  timeout : Value
  payload : Payload
  deriving Repr, Inhabited

structure Sent where
  method : Method
  url : String
  authorization : Option String
  contentType : Option String
  timeout : Value
  body : String
  deriving Repr, Inhabited

def Payload.contentType : Payload → Option String
  | .nothing => none
  | .form _ => some "application/x-www-form-urlencoded"
  | .json _ => some "application/json"

def Payload.body : Payload → String
  | .nothing => ""
  | .form fields => String.ofList (encodeFields fields)
  | .json document => Json.write .compact document

/-- A header value is refused unless it is ASCII. -/
def checkHeader : Option String → Except Fault Unit
  | some value => if value.toList.all (·.toNat < 128) then .ok () else .error (.badHeader value)
  | none => .ok ()

/-- The form that is sent; the address is looked at first, then the header, then the fields. -/
def Request.prepare (r : Request) : Except Fault Sent := do
  let address ← Address.ofEndpoint r.site r.endpoint
  checkHeader r.authorization
  let address ←
    match r.query with
    | some fields => address.withFields fields
    | none => pure address
  return {
    method := r.method
    url := address.render r.site
    authorization := r.authorization
    contentType := r.payload.contentType
    timeout := r.timeout
    body := r.payload.body }

def Request.url (r : Request) : String := (r.prepare.toOption.map (·.url)).getD ""

structure Response where
  status : Nat
  body : List UInt8
  /-- How deep values may stand in one another, by what the stack has left when the body is read. -/
  room : Nat
  deriving DecidableEq, Repr, Inhabited

namespace Response

def isSuccess (r : Response) : Bool := 200 ≤ r.status && r.status < 300

def document (r : Response) : Except Fault Value :=
  match Json.read r.room r.body with
  | .ok v => .ok v
  | .error .malformed => .error (.unreadable r.body)
  | .error .tooDeep => .error (.tooDeep r.body)

def text (r : Response) : List Char := Text.Utf8.decodeLossy r.body

end Response

inductive Outcome where
  | answered (response : Response)
  | failed (fault : Fault)
  deriving Repr, Inhabited

end DebridCache.Wire
