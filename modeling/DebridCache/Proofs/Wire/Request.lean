import DebridCache.Wire.Request
import DebridCache.Proofs.Fault
import DebridCache.Proofs.Wire.Address

/-!
Requests and the form in which they are sent: what is taken over from the request as it is, and what can
be refused.
-/

namespace DebridCache.Wire

variable {P : Fault → Prop}

theorem checkHeader_failsOnly (refused : ∀ value, P (.badHeader value)) (value : Option String) :
    FailsOnly P (checkHeader value) := by
  unfold checkHeader
  split
  · split
    · exact .ok ()
    · exact .error (refused _)
  · exact .ok ()

/-- A request is unfit to be sent for its address or for its header, and for nothing else. -/
theorem Request.prepare_failsOnly {r : Request} (refused : ∀ reason, P (.badAddress reason))
    (header : FailsOnly P (checkHeader r.authorization)) : FailsOnly P r.prepare := by
  have address : FailsOnly P (Address.ofEndpoint r.site r.endpoint) := by
    simp only [Address.ofEndpoint]
    split
    · exact .error (refused _)
    · split
      · exact .error (refused _)
      · exact .ok _
  have fields (a : Address) (fs : Fields) : FailsOnly P (a.withFields fs) := by
    have part (n : Nat) (name : String) (rest : Except Fault Address) (sound : FailsOnly P rest) :
        FailsOnly P (if longest < n then .error (Address.partTooLong name) else rest) := by
      split
      · exact .error (refused _)
      · exact sound
    exact part _ _ _ (part _ _ _ (part _ _ _ (.ok _)))
  unfold Request.prepare
  refine address.bind fun a => header.bind fun _ => ?_
  dsimp only
  split
  · exact (fields a _).bind fun a => .ok _
  · exact (FailsOnly.ok a).bind fun a => .ok _

theorem prepare_whole {r : Request} {address : Address}
    (made : Address.ofEndpoint r.site r.endpoint = .ok address)
    (header : checkHeader r.authorization = .ok ()) (whole : r.query = none) :
    ∃ sent, r.prepare = .ok sent := by
  unfold Request.prepare
  rw [made, header, whole]
  exact ⟨_, rfl⟩

theorem prepare_fields {r : Request} {address : Address} {fields : Fields}
    (made : Address.ofEndpoint r.site r.endpoint = .ok address)
    (header : checkHeader r.authorization = .ok ()) (named : r.query = some fields)
    (path : address.path.length ≤ longest) (plain : address.fragment = none)
    (short : (encodeFields fields).length ≤ longest) :
    ∃ sent, r.prepare = .ok sent := by
  have taken : address.withFields fields =
      .ok { address with query := some (encodeFields fields) } := by
    rw [withFields_eq path plain, if_neg (Nat.not_lt.mpr short)]
  unfold Request.prepare
  rw [made, header, named]
  show ∃ sent, (address.withFields fields >>= _) = Except.ok sent
  rw [taken]
  exact ⟨_, rfl⟩

/-- What a request as it is sent has of the request as it was made, besides its address. -/
structure Parts (r : Request) (sent : Sent) : Prop where
  method : sent.method = r.method
  authorization : sent.authorization = r.authorization
  contentType : sent.contentType = r.payload.contentType
  timeout : sent.timeout = r.timeout
  body : sent.body = r.payload.body

theorem parts_of_prepare {r : Request} {sent : Sent} (prepared : r.prepare = .ok sent) :
    Parts r sent := by
  unfold Request.prepare at prepared
  obtain ⟨address, -, prepared⟩ := ok_of_bind_ok prepared
  obtain ⟨-, -, prepared⟩ := ok_of_bind_ok prepared
  dsimp only at prepared
  split at prepared
  · obtain ⟨full, -, prepared⟩ := ok_of_bind_ok prepared
    cases prepared
    exact ⟨rfl, rfl, rfl, rfl, rfl⟩
  · cases prepared
    exact ⟨rfl, rfl, rfl, rfl, rfl⟩

theorem url_of_prepare {r : Request} {sent : Sent} (prepared : r.prepare = .ok sent)
    (whole : r.query = none) :
    ∃ address, Address.ofEndpoint r.site r.endpoint = .ok address ∧
      sent.url = address.render r.site := by
  unfold Request.prepare at prepared
  rw [whole] at prepared
  obtain ⟨address, made, prepared⟩ := ok_of_bind_ok prepared
  obtain ⟨-, -, prepared⟩ := ok_of_bind_ok prepared
  cases prepared
  exact ⟨address, made, rfl⟩

theorem Response.document_cases (r : Response) : (∃ v, r.document = .ok v) ∨
    r.document = .error (.unreadable r.body) ∨ r.document = .error (.tooDeep r.body) := by
  unfold document
  split
  · exact .inl ⟨_, rfl⟩
  · exact .inr (.inl rfl)
  · exact .inr (.inr rfl)

end DebridCache.Wire
