import DebridCache.Proofs.Account
import DebridCache.Proofs.Sending
import DebridCache.Proofs.Settings
import DebridCache.Proofs.Withdrawal.Sweep

/-!
The registry of a configuration. Each service has the credential and the limits of its own provider, so
what is set for one provider is nothing to the others: neither to what is sent to them nor to what is found
there. All that a provider can do to the others is to withdraw the sweep as a whole.
-/

namespace DebridCache

namespace Settings

/-- The providers that are switched on with a credential that is no placeholder. -/
def usable (s : Settings) : List Provider :=
  ([(.realDebrid, s.useRealDebrid, s.realDebridToken), (.torbox, s.useTorbox, s.torboxApiKey),
    (.allDebrid, s.useAllDebrid, s.allDebridApiKey)].filter fun row =>
      row.2.1 && decide (5 < row.2.2.length)).map (·.1)

/-- The account that the settings of a provider describe. -/
def described (s : Settings) : Provider → Account
  | .realDebrid =>
      ⟨.realDebrid, .str s.realDebridToken, .float s.requestTimeout, .int s.realDebridBatchSize,
        .float s.realDebridBatchDelay, .null⟩
  | .torbox =>
      ⟨.torbox, .str s.torboxApiKey, .float s.requestTimeout, .null, .float (.ofNat 0), .null⟩
  | .allDebrid =>
      ⟨.allDebrid, .str s.allDebridApiKey, .float s.requestTimeout, .null, .float (.ofNat 0),
        .str s.allDebridAgent⟩

def opened (s : Settings) (p : Provider) : Account :=
  .opened p (.str (s.credential p)) (.float s.requestTimeout) s.realDebridBatchSize
    s.realDebridBatchDelay (.str s.allDebridAgent)

theorem usable_eq (s : Settings) : s.usable = Provider.all.filter s.has := by
  have rows : Provider.all = [(.realDebrid, s.useRealDebrid, s.realDebridToken),
      (.torbox, s.useTorbox, s.torboxApiKey), (.allDebrid, s.useAllDebrid, s.allDebridApiKey)].map
        (·.1) := rfl
  rw [rows, List.filter_map, usable]
  apply congrArg
  apply List.filter_congr
  intro row member
  simp only [List.mem_cons, List.not_mem_nil, or_false] at member
  rcases member with rfl | rfl | rfl <;> rfl

theorem mem_usable {s : Settings} {p : Provider} : p ∈ s.usable ↔ s.has p = true := by
  rw [usable_eq, List.mem_filter]
  exact and_iff_right (Registry.mem_all p)

/-- Limits that the settings allow are not changed by the account. -/
theorem Valid.opened_eq {s : Settings} (valid : s.Valid) (p : Provider) : s.opened p = s.described p := by
  cases p with
  | torbox => rfl
  | allDebrid => rfl
  | realDebrid =>
      have size : max 1 (min s.realDebridBatchSize Account.maxBatchSize) = s.realDebridBatchSize := by
        have most := valid.most
        have least := valid.least
        unfold Account.maxBatchSize
        omega
      have delay : Account.keptDelay s.realDebridBatchDelay = s.realDebridBatchDelay := by
        have slow := Place.not_lt_of_le valid.delay
        unfold Account.keptDelay Account.minBatchDelay
        rw [slow]
        rfl
      unfold opened Account.opened
      rw [size, delay]
      rfl

theorem accounts_eq (s : Settings) : s.accounts = .ok (s.usable.map fun p => (p, s.opened p)) := by
  unfold accounts
  rw [← usable_eq]
  apply mapM_ok_of_forall
  intro p _
  rw [account, Account.create_eq_opened]
  rfl

theorem SameBut.has {q p : Provider} {s s' : Settings} (same : s.SameBut q s') (other : p ≠ q) :
    s'.has p = s.has p := by
  rw [Settings.has, Settings.has, same.enabled p other, same.credential p other]

theorem SameBut.opened {q p : Provider} {s s' : Settings} (same : s.SameBut q s') (other : p ≠ q) :
    s'.opened p = s.opened p := by
  unfold Settings.opened
  rw [same.credential p other, same.timeout]
  cases p with
  | torbox => rfl
  | allDebrid =>
      rw [same.agent other.symm]
      rfl
  | realDebrid =>
      rw [same.size other.symm, same.delay other.symm]
      rfl

end Settings

namespace Registry

/-- A check of one of the services is withdrawn. -/
def Withdraws (r : Registry) (hashes : Value) : Prop :=
  hashes.truthy = true ∧
    ∃ p s, r.get? p = some s ∧ ((s.check hashes).run s.client).result = .error .cancelled

/-- No provider has two services. -/
def Keyed (r : Registry) : Prop := ∀ e ∈ r.services, r.get? e.1 = some e.2

theorem Keyed.met {r : Registry} (keyed : r.Keyed) {hashes : Value} (kept : ¬ r.Withdraws hashes)
    (asked : hashes.truthy = true) : r.Met hashes := by
  intro e member withdrawn
  exact kept ⟨asked, e.1, e.2, keyed e member, withdrawn⟩

/-- A sweep is withdrawn with one of its checks, and has results otherwise. -/
theorem Keyed.sweep_ends {r : Registry} (keyed : r.Keyed) (hashes : Value) :
    (r.Withdraws hashes ∧ (r.sweep hashes).2.result = .error .cancelled) ∨
      (¬ r.Withdraws hashes ∧ ∃ found, (r.sweep hashes).2.result = .ok found) := by
  by_cases withdrawn : r.Withdraws hashes
  · refine .inl ⟨withdrawn, ?_⟩
    obtain ⟨asked, p, s, here, failed⟩ := withdrawn
    exact sweep_withdrawn asked (mem_of_get? here) failed
  · exact .inr ⟨withdrawn, _, sweep_alone (keyed.met withdrawn)⟩

theorem Keyed.sweep_found {r : Registry} (keyed : r.Keyed) {hashes : Value} {found : SweepResults}
    (returned : (r.sweep hashes).2.result = .ok found) (p : Provider) :
    found.lookup p.key = some (if hashes.truthy then r.foundAlone hashes p else []) := by
  rcases keyed.sweep_ends hashes with ⟨-, failed⟩ | ⟨kept, -⟩
  · rw [failed] at returned
    cases returned
  · rw [sweep_alone (keyed.met kept)] at returned
    cases returned
    exact lookup_all _ p

theorem Keyed.follow_found {r : Registry} (keyed : r.Keyed) {hashes : Value} {turns : List Provider}
    {u : Sweeping} {found : SweepResults} (followed : (r.begin hashes).follow turns = some u)
    (returned : u.results? = some found) (p : Provider) :
    found.lookup p.key = some (if hashes.truthy then r.foundAlone hashes p else []) ∧
      u.eventsOf p = if hashes.truthy then r.shownAlone hashes p else [] := by
  by_cases withdrawn : r.Withdraws hashes
  · obtain ⟨asked, q, s, here, failed⟩ := withdrawn
    rw [(withdrawn_follow asked here failed followed).1] at returned
    cases returned
  · exact results_follow (keyed.met withdrawn) followed returned p

/-- Two registries show the same of a provider: the same requests and pauses, and the same results where
both have any. -/
structure Alike (r r' : Registry) (p : Provider) : Prop where
  events : ∀ hashes, ((r'.sweep hashes).2.events.lookup p).getD [] =
    ((r.sweep hashes).2.events.lookup p).getD []
  results : ∀ hashes found found', (r.sweep hashes).2.result = .ok found →
    (r'.sweep hashes).2.result = .ok found' → found'.lookup p.key = found.lookup p.key
  turns : ∀ hashes turns u found turns' u' found', (r.begin hashes).follow turns = some u →
    u.results? = some found → (r'.begin hashes).follow turns' = some u' → u'.results? = some found' →
    found'.lookup p.key = found.lookup p.key ∧ u'.eventsOf p = u.eventsOf p

theorem Keyed.alike {r r' : Registry} (keyed : r.Keyed) (keyed' : r'.Keyed) {p : Provider}
    (same : r'.get? p = r.get? p) : Alike r r' p := by
  have found (hashes : Value) : r'.foundAlone hashes p = r.foundAlone hashes p := by
    rw [foundAlone, foundAlone, same]
  have shown (hashes : Value) : r'.shownAlone hashes p = r.shownAlone hashes p := by
    rw [shownAlone, shownAlone, same]
  constructor
  · intro hashes
    rw [sweep_events, sweep_events, shown]
  · intro hashes _ _ returned returned'
    rw [keyed.sweep_found returned, keyed'.sweep_found returned', found]
  · intro hashes _ _ _ _ _ _ followed returned followed' returned'
    obtain ⟨results, events⟩ := keyed.follow_found followed returned p
    obtain ⟨results', events'⟩ := keyed'.follow_found followed' returned' p
    rw [results, results', events, events', found, shown]
    exact ⟨rfl, rfl⟩

def ofSettings (s : Settings) (client : Provider → Client) : Registry :=
  ⟨s.usable.map fun p => (p, .ofAccount (s.opened p) (client p))⟩

theorem build_eq (s : Settings) (client : Provider → Client) :
    build s client = .ok (ofSettings s client, buildEntries s.usable) := by
  unfold build ofSettings
  rw [s.accounts_eq]
  change Except.ok (_, _) = _
  simp [Function.comp_def]

theorem get?_ofSettings (s : Settings) (client : Provider → Client) (p : Provider) :
    (ofSettings s client).get? p =
      if p ∈ s.usable then some (.ofAccount (s.opened p) (client p)) else none := by
  split
  · rename_i member
    exact lookup_map_of_mem (fun p => Service.ofAccount (s.opened p) (client p)) member
  · rename_i absent
    apply List.lookup_eq_none_iff.mpr
    intro e member
    obtain ⟨p', used, rfl⟩ := List.mem_map.mp member
    apply bne_iff_ne.mpr
    rintro rfl
    exact absent used

theorem keyed_ofSettings (s : Settings) (client : Provider → Client) : (ofSettings s client).Keyed := by
  intro e member
  obtain ⟨p, used, rfl⟩ := List.mem_map.mp member
  rw [get?_ofSettings, if_pos used]

theorem enabled_ofSettings (s : Settings) (client : Provider → Client) :
    (ofSettings s client).enabled = s.usable := by
  rw [s.usable_eq]
  apply List.filter_congr
  intro p _
  rw [isEnabled, get?_ofSettings]
  by_cases used : s.has p = true
  · rw [if_pos (Settings.mem_usable.mpr used), used]
    rfl
  · rw [if_neg fun member => used (Settings.mem_usable.mp member), Bool.eq_false_iff.mpr used]
    rfl

theorem alike_ofSettings {s s' : Settings} {client client' : Provider → Client} {q p : Provider}
    (same : s.SameBut q s') (clients : client' p = client p) (other : p ≠ q) :
    Alike (ofSettings s client) (ofSettings s' client') p := by
  apply (keyed_ofSettings s client).alike (keyed_ofSettings s' client')
  have used : p ∈ s'.usable ↔ p ∈ s.usable := by
    rw [Settings.mem_usable, Settings.mem_usable, same.has other]
  rw [get?_ofSettings, get?_ofSettings, same.opened other, clients]
  simp only [used]

/-- What is sent in a sweep to a provider is what its own account asks. -/
theorem asks_ofSettings {s : Settings} {client : Provider → Client} {hashes : Value} {p : Provider}
    {sent : Wire.Sent}
    (seen : .sent sent ∈ (((ofSettings s client).sweep hashes).2.events.lookup p).getD []) :
    p ∈ s.usable ∧ (s.opened p).Asks sent := by
  rw [sweep_events] at seen
  split at seen
  · rw [shownAlone, get?_ofSettings] at seen
    by_cases used : p ∈ s.usable
    · rw [if_pos used] at seen
      exact ⟨used, ((s.opened p).check_sends hashes).seen seen⟩
    · rw [if_neg used] at seen
      cases seen
  · cases seen

end Registry

theorem Account.check_withdrawn {a : Account} (regular : a.Regular) {hashes : List String} {c : Client}
    (all : ∀ index, c.script.outcomeAt index = .failed .cancelled)
    (asks : ∃ o ∈ a.outcomes c (a.batches (Hash.asked hashes)), o = .failed .cancelled) :
    ((a.check (.arr (hashes.map .str))).run c).result = .error .cancelled := by
  by_cases silent : (a.check (.arr (hashes.map .str))).dialogue c = []
  · obtain ⟨o, member, withdrawn⟩ := asks
    have met : ∀ e ∈ (a.check (.arr (hashes.map .str))).dialogue c, e.2 ≠ .failed .cancelled := by
      rw [silent]
      intro e none
      cases none
    exact absurd withdrawn (outcomes_of_check regular met o member)
  · have sent : 0 < (requestsOf ((a.check (.arr (hashes.map .str))).run c).events).length := by
      rw [requestsOf, Exchange.requests_events, List.length_map]
      exact List.length_pos_iff.mpr silent
    exact ((a.check_yields _).stops c 0 (all 0) sent).1

namespace Registry

def bothOn : Settings := { Settings.defaults with
  useRealDebrid := true
  realDebridToken := "rd-token-123"
  useTorbox := true
  torboxApiKey := "torbox-key-123" }

def torboxOff : Settings := { bothOn with useTorbox := false }

theorem bothOn_valid : bothOn.Valid := ⟨by decide, by decide, by decide +kernel⟩

theorem sameBut_torboxOff : bothOn.SameBut .torbox torboxOff := by
  constructor
  · intro p other
    cases p with
    | torbox => exact absurd rfl other
    | _ => rfl
  · intro p other
    rfl
  · rfl
  · intro other
    rfl
  · intro other
    rfl
  · intro other
    rfl

/-- Every request times out, but those to Torbox fail in a way of their own. -/
def suffering (f : Fault) (p : Provider) : Client :=
  ⟨false, [], .failed (if p = .torbox then f else .transport "ReadTimeout" "")⟩

theorem check_torbox_withdrawn :
    (((bothOn.opened .torbox).check (.arr (["aa"].map .str))).run (suffering .cancelled .torbox)).result =
      .error .cancelled := by
  have regular : (bothOn.opened .torbox).Regular := Account.opened_regular ..
  have ascii : ∀ ch ∈ "torbox-key-123".toList, ch.toNat < 128 := Wire.forall_of_all (by decide)
  have reaches : (bothOn.opened .torbox).Reaches (suffering .cancelled .torbox) :=
    Account.opened_reaches ascii rfl nofun
  have few : (bothOn.opened .torbox).provider = .realDebrid → ["aa"].length ≤ 40 := fun _ => by decide
  obtain ⟨sent, prepared⟩ := Account.question_sendable reaches few (by decide)
  apply Account.check_withdrawn regular
  · intro index
    rfl
  · have asked : Hash.asked ["aa"] = ["aa"] := rfl
    rw [asked, Account.batches_whole rfl (List.cons_ne_nil _ _)]
    refine ⟨_, List.mem_cons_self, ?_⟩
    rw [Client.ask, prepared]
    rfl

end Registry
end DebridCache
