import DebridCache.Proofs.Alike
import DebridCache.Proofs.Availability.Schedule
import DebridCache.Proofs.Wire.Disclosure

/-!
Credentials. Each stands in one place of each request, and nothing else depends on it: neither what an
operation returns, nor the fault it ends with, nor what is logged. AllDebrid's key shares the query with the
agent's name, and a query that is too long is refused; so there the two keys must fit beside the agent alike.
-/

namespace DebridCache

/-- A credential as a user may have one: printable, and not too long. -/
structure IsCredential (key : String) : Prop where
  given : key ≠ ""
  short : key.length ≤ 1000
  printable : ∀ c ∈ key.toList, 0x20 ≤ c.toNat ∧ c.toNat < 0x7F

theorem IsCredential.ascii {key : String} (held : IsCredential key) : ∀ c ∈ key.toList, c.toNat < 128 :=
  fun c member => Nat.lt_succ_of_lt (held.printable c member).2

instance : DecidablePred IsCredential := fun key =>
  decidable_of_iff
    (key ≠ "" ∧ key.length ≤ 1000 ∧ key.toList.all (fun c => 0x20 ≤ c.toNat ∧ c.toNat < 0x7F) = true)
    ⟨fun ⟨given, short, all⟩ => ⟨given, short, Wire.forall_of_all all⟩, fun held => ⟨held.given, held.short,
      List.all_eq_true.mpr fun c member => decide_eq_true (held.printable c member)⟩⟩

def Provider.Differ (p : Provider) (key key' : String) : Wire.Sent → Wire.Sent → Prop :=
  match p with
  | .allDebrid => Wire.DifferInField "apikey" key key'
  | _ => Wire.DifferInHeader key key'

namespace Account

/-- The query in which AllDebrid finds the credential is too long to be sent. -/
def Overlong (a : Account) : Prop := Wire.longest < (Wire.encodeFields a.queryFields).length

/-- Where both credentials fit into the query or neither does, requests tell nothing else of them. -/
theorem disclosing {a : Account} {key key' : String} (own : a.credential = .str key)
    (held : IsCredential key) (held' : IsCredential key')
    (fit : a.provider = .allDebrid → (a.Overlong ↔ (a.under (.str key')).Overlong)) :
    a.Disclosing (a.provider.Differ key key') (.str key') := by
  have header := checkHeader_authorization own held.ascii
  have header' := checkHeader_authorization (a := a.under (.str key')) rfl held'.ascii
  obtain ⟨provider, credential, timeout, size, delay, agent⟩ := a
  cases own
  intro method endpoint payload
  cases provider with
  | realDebrid => exact Wire.sameBut_header ⟨method, _, endpoint, none, none, timeout, payload⟩ header header'
  | torbox => exact Wire.sameBut_header ⟨method, _, endpoint, none, none, timeout, payload⟩ header header'
  | allDebrid =>
      exact Wire.sameBut_field [("agent", agent)] [] rfl (fit rfl)

/-- Beside an agent's name of ordinary length there is room for any credential. -/
theorem not_overlong {a : Account} {agent key : String} (introduced : a.agent = .str agent)
    (brief : agent.length ≤ 4000) (own : a.credential = .str key) (held : IsCredential key) :
    ¬ a.Overlong := by
  have short := held.short
  have most : Wire.longest = 65536 := rfl
  unfold Overlong queryFields
  rw [introduced, own]
  split
  · have query := Wire.length_encodeFields_two_le "agent" "apikey" agent key
    have names : "agent".length = 5 ∧ "apikey".length = 6 := by decide
    omega
  · exact Nat.not_lt_zero _

/-- A check with something to ask shows nothing just where the query is too long. -/
theorem Limited.silent_iff_overlong {a : Account} {size : Nat} {delay : Binary64}
    (limited : a.Limited size delay) {key : String} (own : a.credential = .str key)
    (ascii : ∀ ch ∈ key.toList, ch.toNat < 128) {hashes : List String}
    (plain : ∀ h ∈ Hash.asked hashes, Hash.Plain h) (some : Hash.asked hashes ≠ []) {c : Client}
    (isOpen : c.isClosed = false) (steady : c.Steady) :
    ((a.check (.arr (hashes.map .str))).run c).events = [] ↔ a.Overlong := by
  obtain ⟨requests, events, read⟩ := limited.requests own ascii plain isOpen steady
  rw [events]
  by_cases long : a.Overlong
  · rw [if_pos (show _ < _ from long), List.map_eq_nil_iff] at read
    rw [read]
    exact iff_of_true rfl long
  · rw [if_neg (show ¬ _ < _ from long)] at read
    cases requests with
    | nil =>
        have whole := flatten_batches limited.regular.size (Hash.asked hashes)
        rw [← read] at whole
        exact absurd whole.symm some
    | cons r rest =>
        rw [List.map_cons, intercalate_cons]
        exact iff_of_false (List.cons_ne_nil _ _) long

/-- An account is created for any credential alike, and keeps it as it is. -/
theorem create_under (p : Provider) (o : Options) (credential : Value) :
    create p { o with credential := credential } = (create p o).map (·.under credential) := by
  cases p with
  | realDebrid =>
      unfold create
      dsimp only
      cases o.batchSize.least (.int maxBatchSize) with
      | error f => rfl
      | ok least =>
          dsimp only [bind, Except.bind]
          cases Value.greatest (.int 1) least with
          | error f => rfl
          | ok size =>
              dsimp only
              cases o.batchDelay.greatest (.float minBatchDelay) <;> rfl
  | torbox => rfl
  | allDebrid => rfl

theorem create_kept {p : Provider} {o : Options} {a : Account} (created : create p o = .ok a) :
    a.provider = p ∧ a.credential = o.credential := by
  cases p with
  | realDebrid =>
      obtain ⟨least, -, created⟩ := ok_of_bind_ok created
      obtain ⟨size, -, created⟩ := ok_of_bind_ok created
      obtain ⟨delay, -, created⟩ := ok_of_bind_ok created
      cases created
      exact ⟨rfl, rfl⟩
  | torbox =>
      cases created
      exact ⟨rfl, rfl⟩
  | allDebrid =>
      cases created
      exact ⟨rfl, rfl⟩

/-- Under another credential every use of an account ends alike, with the same reports but for the
requests in them. -/
def Unseen (R : Wire.Sent → Wire.Sent → Prop) (a : Account) (credential : Value) : Prop :=
  ∀ (c : Client) (ops : List Operation), (∀ o ∈ ops, o.Public) →
    (Session.performAll ⟨a.under credential, c⟩ ops).1 =
        (Session.performAll ⟨a, c⟩ ops).1.under credential ∧
      List.Forall₂ (Report.SameBut R) (Session.performAll ⟨a, c⟩ ops).2
        (Session.performAll ⟨a.under credential, c⟩ ops).2

theorem Unseen.check {R : Wire.Sent → Wire.Sent → Prop} {a : Account} {credential : Value}
    (unseen : a.Unseen R credential) (input : Value) (c : Client) :
    List.Forall₂ (Event.SameBut R) ((a.check input).run c).events
      (((a.under credential).check input).run c).events := by
  have plain : ∀ o ∈ [Operation.check input], o.Public := by
    intro o member
    rw [List.mem_singleton.mp member]
    exact .check input
  have reports := (unseen c _ plain).2
  rw [Session.performAll_cons, Session.performAll_cons] at reports
  obtain ⟨report, -⟩ := List.forall₂_cons.mp reports
  rw [Session.perform, Session.perform] at report
  exact report.events

end Account

namespace TitleDatabase

theorem length_lookup_le {key : String} (held : IsCredential key) :
    ∀ fields ∈ lookupFields, (Wire.encodeFields (("api_key", .str key) :: fields)).length ≤ Wire.longest := by
  have short := held.short
  have most : Wire.longest = 65536 := rfl
  intro fields listed
  rcases List.mem_cons.mp listed with rfl | listed
  · have query := Wire.length_encodeFields_two_le "api_key" "external_source" key "imdb_id"
    have names : "api_key".length = 7 ∧ "external_source".length = 15 ∧ "imdb_id".length = 7 := by decide
    omega
  · cases List.mem_singleton.mp listed
    have query := Wire.length_encodeFields_two_le "api_key" "append_to_response" key "external_ids"
    have names : "api_key".length = 7 ∧ "append_to_response".length = 18 ∧ "external_ids".length = 12 := by
      decide
    omega

theorem disclosing {key key' : String} (held : IsCredential key) (held' : IsCredential key')
    (timeout : Value) :
    (⟨.str key, timeout⟩ : TitleDatabase).Disclosing (Wire.DifferInField "api_key" key key') (.str key') where
  given := by simpa [Value.truthy] using held.given
  given' := by simpa [Value.truthy] using held'.given
  request endpoint fields listed :=
    Wire.sameBut_field [] fields rfl
      (iff_of_false (Nat.not_lt.mpr (length_lookup_le held fields listed))
        (Nat.not_lt.mpr (length_lookup_le held' fields listed)))

def Unseen (R : Wire.Sent → Wire.Sent → Prop) (db : TitleDatabase) (key : Value) : Prop :=
  ∀ (c : Client) (ops : List TitleOperation), (∀ o ∈ ops, o.Public) →
    (TitleSession.performAll ⟨db.under key, c⟩ ops).1 = (TitleSession.performAll ⟨db, c⟩ ops).1.under key ∧
      List.Forall₂ (TitleReport.SameBut R) (TitleSession.performAll ⟨db, c⟩ ops).2
        (TitleSession.performAll ⟨db.under key, c⟩ ops).2

end TitleDatabase

/-- A credential is seen in its place in requests and nowhere else. Under another one an account is created
alike, and all that is done with it ends alike with the same results, faults and log; so it is with the
title database. At AllDebrid this takes two keys that both fit into the query beside the agent, or that
both do not; beside an agent's name of ordinary length all keys fit. -/
theorem credential_unseen {key key' : String} (held : IsCredential key) (held' : IsCredential key') :
    (∀ (p : Provider) (o : Account.Options), Account.create p { o with credential := .str key' } =
      (Account.create p { o with credential := .str key }).map (·.under (.str key'))) ∧
    (∀ (p : Provider) (o : Account.Options) (a : Account),
      Account.create p { o with credential := .str key } = .ok a →
      (p = .allDebrid → (a.Overlong ↔ (a.under (.str key')).Overlong)) →
      a.Unseen (p.Differ key key') (.str key')) ∧
    (∀ (a : Account) (agent : String), a.agent = .str agent → agent.length ≤ 4000 →
      ¬ (a.under (.str key)).Overlong ∧ ¬ (a.under (.str key')).Overlong) ∧
    ∀ timeout, (⟨.str key, timeout⟩ : TitleDatabase).Unseen (Wire.DifferInField "api_key" key key')
      (.str key') := by
  refine ⟨fun p o => Account.create_under p { o with credential := .str key } _, ?_, ?_, ?_⟩
  · intro p o a created fit c ops plain
    obtain ⟨provider, own⟩ := Account.create_kept created
    cases provider
    exact Session.performAll_sameBut (s := ⟨a, c⟩) (Account.disclosing own held held' fit) plain
  · intro a agent introduced brief
    exact ⟨Account.not_overlong (a := a.under (.str key)) introduced brief rfl held,
      Account.not_overlong (a := a.under (.str key')) introduced brief rfl held'⟩
  · intro timeout c ops plain
    exact TitleSession.performAll_sameBut (s := ⟨⟨.str key, timeout⟩, c⟩)
      (TitleDatabase.disclosing held held' timeout) plain

/-- An AllDebrid check, an action and the end of it, and a lookup of a title, under two keys. -/
theorem credential_unseen_of_two :
    (∀ c : Client, List.Forall₂ (Report.SameBut (Wire.DifferInField "apikey" "first" "the second"))
      (Session.performAll ⟨.keyed "first", c⟩ [.check (.arr [.str "aa"]), .act .userInfo, .close]).2
      (Session.performAll ⟨.keyed "the second", c⟩ [.check (.arr [.str "aa"]), .act .userInfo, .close]).2) ∧
    ∀ c : Client, List.Forall₂ (TitleReport.SameBut (Wire.DifferInField "api_key" "first" "the second"))
      (TitleSession.performAll ⟨⟨.str "first", .null⟩, c⟩ [.find (.str "tt1"), .close]).2
      (TitleSession.performAll ⟨⟨.str "the second", .null⟩, c⟩ [.find (.str "tt1"), .close]).2 := by
  have held : IsCredential "first" := by decide
  have held' : IsCredential "the second" := by decide
  obtain ⟨-, accounts, fitting, titles⟩ := credential_unseen held held'
  have fit : (Account.keyed "first").Overlong ↔
      ((Account.keyed "first").under (.str "the second")).Overlong := by
    obtain ⟨first, second⟩ := fitting (Account.keyed "first") Account.defaultAgent rfl (by decide)
    exact iff_of_false first second
  constructor
  · intro c
    refine (accounts .allDebrid ⟨.null, .null, .null, .null, .str Account.defaultAgent⟩ _
      (Account.create_keyed "first") (fun _ => fit) c _ ?_).2
    intro o member
    rcases member with - | ⟨-, - | ⟨-, - | ⟨-, none⟩⟩⟩
    · exact .check _
    · exact .act _
    · exact .close
    · cases none
  · intro c
    refine (titles .null c _ ?_).2
    intro o member v
    rcases member with - | ⟨-, - | ⟨-, none⟩⟩
    · nofun
    · nofun
    · cases none

namespace Account

theorem introduced_overlong {agent key : String} (plain : ∀ ch ∈ agent.toList, Wire.isUnreserved ch = true)
    (plain' : ∀ ch ∈ key.toList, Wire.isUnreserved ch = true) :
    (introduced agent key).Overlong ↔ 65522 < agent.length + key.length := by
  have fields : Wire.encodeFields (introduced agent key).queryFields =
      Wire.formText "agent" ++ '=' :: Wire.formText agent ++ '&' ::
        (Wire.formText "apikey" ++ '=' :: Wire.formText key) := rfl
  have names : (Wire.formText "agent").length = 5 ∧ (Wire.formText "apikey").length = 6 := by decide
  have most : Wire.longest = 65536 := rfl
  unfold Overlong
  rw [fields, Wire.formText_unreserved plain, Wire.formText_unreserved plain']
  simp only [List.length_append, List.length_cons, String.length_toList]
  omega

end Account

/-- Credentials can be told from one another by their length, where one leaves the query of an AllDebrid
account short enough and the other does not: under the one a request is seen, under the other none. -/
theorem credential_seen_by_length :
    ∃ agent key key' a, Account.create .allDebrid ⟨.str key, .null, .null, .null, .str agent⟩ = .ok a ∧
      IsCredential key ∧ IsCredential key' ∧ ¬ a.Unseen (Provider.allDebrid.Differ key key') (.str key') := by
  obtain ⟨agent, plain, long⟩ : ∃ agent : String,
      (∀ ch ∈ agent.toList, Wire.isUnreserved ch = true) ∧ agent.length = 65500 :=
    ⟨_, Wire.forall_repeated (c := 'a') (by decide) 65500, Wire.length_repeated ..⟩
  obtain ⟨key', plain', printable, long'⟩ : ∃ key : String,
      (∀ ch ∈ key.toList, Wire.isUnreserved ch = true) ∧
      (∀ ch ∈ key.toList, 0x20 ≤ ch.toNat ∧ ch.toNat < 0x7F) ∧ key.length = 1000 :=
    ⟨_, Wire.forall_repeated (c := 'k') (by decide) 1000, Wire.forall_repeated (by decide) 1000,
      Wire.length_repeated ..⟩
  have held : IsCredential key' := by
    refine ⟨?_, Nat.le_of_eq long', printable⟩
    rintro rfl
    cases long'
  refine ⟨agent, "k", key', .introduced agent "k", rfl, by decide, held, fun unseen => ?_⟩
  have steady : Client.Steady ⟨false, [], .answered ⟨200, [123, 125], 1000⟩⟩ :=
    Client.steady_always (Wire.Outcome.met_of_answered rfl)
  have ascii : ∀ ch ∈ "k".toList, ch.toNat < 128 := Wire.forall_of_all (by decide)
  have asked : ∀ h ∈ Hash.asked ["aa"], Hash.Plain h := by decide
  have told := (Account.introduced_limited agent "k").silent_iff_overlong rfl ascii asked (by decide) rfl steady
  have untold := (Account.introduced_limited agent key').silent_iff_overlong rfl held.ascii asked (by decide)
    rfl steady
  rw [Account.introduced_overlong plain (Wire.forall_of_all (by decide)), long] at told
  rw [Account.introduced_overlong plain plain', long, long'] at untold
  have same := (unseen.check (.arr (["aa"].map .str)) ⟨false, [], .answered ⟨200, [123, 125], 1000⟩⟩).length_eq
  change _ = (((Account.introduced agent key').check _).run _).events.length at same
  rw [untold.mpr (by decide), List.length_nil, List.length_eq_zero_iff, told] at same
  exact absurd same (by decide)

end DebridCache
