import DebridCache.Proofs.Alike
import DebridCache.Proofs.Wire.Request

/-!
Where a credential stands in a request: in the header, or as the value of one field of the query. Two
requests with different ones are refused alike or are sent alike but for that place; in the query this
takes two values that are both short enough for it, or that both are not.
-/

namespace DebridCache.Wire

def DifferInHeader (key key' : String) (r r' : Sent) : Prop :=
  r.authorization = some ("Bearer " ++ key) ∧
    r' = { r with authorization := some ("Bearer " ++ key') }

def Address.filled (a : Address) (before after : Fields) (name value : String) : Address :=
  { a with query := some (encodeFields (before ++ (name, .str value) :: after)) }

def DifferInField (name key key' : String) (r r' : Sent) : Prop :=
  ∃ site address before after, r.url = (Address.filled address before after name key).render site ∧
    r' = { r with url := (address.filled before after name key').render site }

theorem prepare_header (r : Request) {v v' : Option String} (fits : checkHeader v = .ok ())
    (fits' : checkHeader v' = .ok ()) :
    ({ r with authorization := v' } : Request).prepare =
      ({ r with authorization := v } : Request).prepare.map fun s => { s with authorization := v' } := by
  unfold Request.prepare
  dsimp only
  rw [fits, fits']
  cases Address.ofEndpoint r.site r.endpoint with
  | error f => rfl
  | ok address =>
      cases r.query with
      | none => rfl
      | some fields =>
          show (address.withFields fields >>= _) = Except.map _ (address.withFields fields >>= _)
          cases address.withFields fields <;> rfl

theorem sameBut_header (r : Request) {key key' : String}
    (fits : checkHeader (some ("Bearer " ++ key)) = .ok ())
    (fits' : checkHeader (some ("Bearer " ++ key')) = .ok ()) :
    ({ r with authorization := some ("Bearer " ++ key) } : Request).SameBut (DifferInHeader key key')
      { r with authorization := some ("Bearer " ++ key') } := by
  have other := prepare_header r fits fits'
  cases prepared : ({ r with authorization := some ("Bearer " ++ key) } : Request).prepare with
  | error f => exact .refused f prepared (by rw [other, prepared]; rfl)
  | ok s =>
      exact .sent prepared (by rw [other, prepared]; rfl) ⟨(parts_of_prepare prepared).authorization, rfl⟩

def Request.fit (r : Request) : Except Fault Address := do
  let address ← Address.ofEndpoint r.site r.endpoint
  checkHeader r.authorization
  return address

theorem prepare_eq_fit {r : Request} {fields : Fields} (named : r.query = some fields) :
    r.prepare = r.fit >>= fun address => (address.withFields fields).map fun full =>
      ⟨r.method, full.render r.site, r.authorization, r.payload.contentType, r.timeout, r.payload.body⟩ := by
  unfold Request.prepare Request.fit
  rw [named]
  cases Address.ofEndpoint r.site r.endpoint with
  | error f => rfl
  | ok address =>
      cases checkHeader r.authorization with
      | error f => rfl
      | ok _ =>
          show (address.withFields fields >>= _) = Except.map _ (address.withFields fields)
          cases address.withFields fields <;> rfl

/-- Where the two values of a field fit alike, the requests are refused alike or differ in that value. -/
theorem sameBut_field {r : Request} {name key key' : String} (before after : Fields)
    (named : r.query = some (before ++ (name, .str key) :: after))
    (fit : longest < (encodeFields (before ++ (name, .str key) :: after)).length ↔
      longest < (encodeFields (before ++ (name, .str key') :: after)).length) :
    r.SameBut (DifferInField name key key')
      { r with query := some (before ++ (name, .str key') :: after) } := by
  have prepared := prepare_eq_fit named
  have prepared' : ({ r with query := some (before ++ (name, .str key') :: after) } : Request).prepare = _ :=
    prepare_eq_fit rfl
  change _ = r.fit >>= _ at prepared'
  cases fitness : r.fit with
  | error f =>
      rw [fitness] at prepared prepared'
      exact .refused f prepared prepared'
  | ok address =>
      rw [fitness] at prepared prepared'
      change _ = Except.map _ (address.withFields _) at prepared prepared'
      simp only [Address.withFields, ← fit] at prepared prepared'
      split_ifs at prepared prepared'
      · exact .refused _ prepared prepared'
      · exact .refused _ prepared prepared'
      · exact .refused _ prepared prepared'
      · exact .sent prepared prepared' ⟨r.site, address, before, after, rfl, rfl⟩

/-- A character has at most four bytes, and each is encoded by three characters. -/
theorem length_formText_le (s : String) : (formText s).length ≤ 12 * s.length := by
  have each (c : Char) : (formChar c).length ≤ 12 := by
    have bytes : (String.utf8EncodeChar c).length ≤ 4 := by
      rw [String.length_utf8EncodeChar]
      exact c.utf8Size_le_four
    unfold formChar
    split
    · exact Nat.succ_le_succ (Nat.zero_le _)
    · split
      · exact Nat.succ_le_succ (Nat.zero_le _)
      · have three : (fun b => (percentByte b).length) = fun _ => 3 := rfl
        rw [percentChar, List.length_flatMap, three, List.map_const', List.sum_replicate_nat]
        omega
  rw [← String.length_toList, formText]
  induction s.toList with
  | nil => exact Nat.le_refl 0
  | cons c cs ih =>
      have first := each c
      rw [List.flatMap_cons, List.length_append, List.length_cons]
      omega

theorem length_encodeFields_two_le (name name' s s' : String) :
    (encodeFields [(name, .str s), (name', .str s')]).length ≤
      12 * (name.length + s.length + name'.length + s'.length) + 3 := by
  have fields : encodeFields [(name, .str s), (name', .str s')] =
      formText name ++ '=' :: formText s ++ '&' :: (formText name' ++ '=' :: formText s') := rfl
  have first := length_formText_le name
  have second := length_formText_le s
  have third := length_formText_le name'
  have fourth := length_formText_le s'
  rw [fields]
  simp only [List.length_append, List.length_cons]
  omega

end DebridCache.Wire
