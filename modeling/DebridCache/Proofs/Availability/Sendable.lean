import DebridCache.Proofs.Account
import DebridCache.Proofs.Availability.Inquiry

/-!
Questions that can be sent. Real-Debrid's hashes stand in the address, which is short enough for the
most hashes that it takes; for the other two only the header and the query can be refused.
-/

namespace DebridCache

open Wire (Request Sent Address)

theorem length_intercalate_le {limit : Nat} {parts : List (List Char)}
    (short : ∀ s ∈ parts, s.length ≤ limit) (mark : Char) :
    ([mark].intercalate parts).length ≤ (limit + 1) * parts.length := by
  induction parts with
  | nil => exact Nat.zero_le _
  | cons part rest ih =>
      have first := short part List.mem_cons_self
      have others := ih fun s later => short s (List.mem_cons_of_mem part later)
      rw [List.length_cons, Nat.mul_succ]
      cases rest with
      | nil =>
          rw [List.intercalate_singleton]
          omega
      | cons next more =>
          rw [List.intercalate_cons_cons, List.length_append, List.length_append,
            List.length_singleton]
          omega

namespace Account

/-- An account on an open client whose header and query can be sent. -/
structure Reaches (a : Account) (c : Client) : Prop where
  isOpen : c.isClosed = false
  header : Wire.checkHeader a.authorization = .ok ()
  query : (Wire.encodeFields a.queryFields).length ≤ Wire.longest

theorem opened_reaches {p : Provider} {key : String} (ascii : ∀ c ∈ key.toList, c.toNat < 128)
    {timeout agent : Value} {size : Int} {delay : Binary64} {c : Client} (isOpen : c.isClosed = false)
    (fits : p = .allDebrid → (Wire.encodeFields
      (opened p (.str key) timeout size delay agent).queryFields).length ≤ Wire.longest) :
    (opened p (.str key) timeout size delay agent).Reaches c := by
  refine ⟨isOpen, checkHeader_authorization (opened_credential _ _ _ _ _ _) ascii, ?_⟩
  cases p with
  | realDebrid => exact Nat.zero_le _
  | torbox => exact Nat.zero_le _
  | allDebrid => exact fits rfl

theorem address_toList (batch : List String) :
    (Provider.realDebrid.site.base ++
      ("/torrents/instantAvailability/" ++ String.intercalate "/" batch)).toList =
      Provider.addressBefore ++ ['/'].intercalate (batch.map String.toList) := by
  rw [← String.append_assoc, String.toList_append, String.toList_intercalate]
  rfl

theorem address_ok {batch : List String} (few : batch.length ≤ 40)
    (plain : ∀ h ∈ batch, Hash.Plain h) :
    ∃ address, Address.ofEndpoint Provider.realDebrid.site
      ("/torrents/instantAvailability/" ++ String.intercalate "/" batch) = .ok address := by
  apply Wire.ofEndpoint_ok
  · have short : ∀ s ∈ batch.map String.toList, s.length ≤ 64 := by
      intro s member
      obtain ⟨h, asked, rfl⟩ := List.mem_map.mp member
      exact (plain h asked).short
    have hashes := length_intercalate_le short '/'
    have before : Provider.addressBefore.length = 66 := by decide
    have most : Wire.longest = 65536 := rfl
    rw [List.length_map] at hashes
    rw [address_toList, List.length_append]
    omega
  · have fixed : ∀ c ∈ '/' :: Provider.addressBefore, Wire.isControl c = false :=
      Wire.forall_of_all (by decide)
    intro c member
    rw [address_toList] at member
    rcases List.mem_append.mp member with before | own
    · exact fixed c (List.mem_cons_of_mem _ before)
    · rcases mem_intercalate own with slash | ⟨s, segment, inside⟩
      · exact fixed c (List.mem_singleton.mp slash ▸ List.mem_cons_self)
      · obtain ⟨h, asked, rfl⟩ := List.mem_map.mp segment
        have range := Wire.alphanum_range ((plain h asked).letters c inside)
        rw [Wire.isControl, decide_eq_false (by omega), decide_eq_false (by omega)]
        rfl

theorem request_sendable {a : Account} {c : Client} (reaches : a.Reaches c) {endpoint : String}
    {address : Address} (made : Address.ofEndpoint a.provider.site endpoint = .ok address)
    (path : a.queryFields ≠ [] → address.path.length ≤ Wire.longest ∧ address.fragment = none)
    (method : Wire.Method) (payload : Wire.Payload) :
    ∃ sent, (a.request method endpoint payload).prepare = .ok sent := by
  cases fields : a.queryFields with
  | nil =>
      have whole : (a.request method endpoint payload).query = none := by
        rw [request, fields]
        rfl
      exact Wire.prepare_whole made reaches.header whole
  | cons field others =>
      have named : (a.request method endpoint payload).query = some a.queryFields := by
        rw [request, fields]
        rfl
      obtain ⟨short, plain⟩ := path (by rw [fields]; exact List.cons_ne_nil _ _)
      exact Wire.prepare_fields made reaches.header named short plain reaches.query

theorem question_sendable {a : Account} {c : Client} (reaches : a.Reaches c) {batch : List String}
    (few : a.provider = .realDebrid → batch.length ≤ 40) (plain : ∀ h ∈ batch, Hash.Plain h) :
    ∃ sent, (a.question batch).prepare = .ok sent := by
  cases provider : a.provider with
  | realDebrid =>
      obtain ⟨address, made⟩ := address_ok (few provider) plain
      have none : a.queryFields = [] := by rw [queryFields, provider]
      rw [question, provider]
      exact request_sendable reaches (provider ▸ made) (fun some => absurd none some) _ _
  | torbox =>
      have made : Address.ofEndpoint Provider.torbox.site "/torrents/checkcached" =
          .ok ⟨"/v1/api/torrents/checkcached".toList, none, none⟩ := rfl
      rw [question, provider]
      exact request_sendable reaches (provider ▸ made) (fun _ => ⟨by decide, rfl⟩) _ _
  | allDebrid =>
      have made : Address.ofEndpoint Provider.allDebrid.site "/magnet/instant" =
          .ok ⟨"/v4/magnet/instant".toList, none, none⟩ := rfl
      rw [question, provider]
      exact request_sendable reaches (provider ▸ made) (fun _ => ⟨by decide, rfl⟩) _ _

end Account
end DebridCache
