import DebridCache.Sweep
import DebridCache.Proofs.Availability.Honest
import DebridCache.Proofs.Availability.Schedule

/-!
A sweep over services whose requests are all answered honestly. Each service's own check says what its
provider holds, and the sweep lists just the services that hold a hash.
-/

namespace DebridCache

open Wire (Sent Outcome)

namespace ResultMap

/-- A hash in normal form is found cached where it was asked for and is held. -/
theorem cached_of_tells {results : ResultMap} {held : String → Bool}
    (distinct : (results.map (·.1)).Nodup) (tells : Account.Tells held results) (form : String) :
    ((results.lookup form).map (·.cached)).getD false =
      ((results.map (·.1)).contains form && held form) := by
  cases found : results.lookup form with
  | none =>
      have absent : ¬ form ∈ results.map (·.1) := by
        intro asked
        obtain ⟨r, member, rfl⟩ := List.mem_map.mp asked
        rw [lookup_of_mem distinct member] at found
        cases found
      rw [List.contains_eq_mem, decide_eq_false absent]
      rfl
  | some status =>
      obtain ⟨before, after, split, -⟩ := List.lookup_eq_some_iff.mp found
      have member : (form, status) ∈ results := by
        rw [split]
        exact List.mem_append_right before List.mem_cons_self
      have asked : form ∈ results.map (·.1) := List.mem_map_of_mem member
      rw [List.contains_eq_mem, decide_eq_true asked]
      exact tells (form, status) member

end ResultMap

theorem cachedServices_text (results : List (String × ResultMap)) (q : String) :
    cachedServices results (.str q) = .ok ((results.filter fun r =>
      ((r.2.lookup (Hash.normalize q)).map (·.cached)).getD false).map (·.1)) := by
  have named : (results.mapM fun r => do return (r.1, ← r.2.isCached (.str q))) =
      .ok (results.map fun r =>
        (r.1, ((r.2.lookup (Hash.normalize q)).map (·.cached)).getD false)) :=
    mapM_ok_of_forall fun r _ => rfl
  unfold cachedServices
  rw [named]
  show Except.ok _ = _
  rw [List.filter_map, List.map_map]
  rfl

theorem tryCheck_ends {a : Account} {c after : Client} {p : Provider} {hashes : Value}
    {results : ResultMap} {said : List (Sent × Outcome)}
    (ends : (a.check hashes).Ends c (.ok results) after said) :
    ((Service.ofAccount a c).tryCheck p hashes).Ends c (.ok results) after said := by
  have attempted := ends.attempt (by intro same; cases same)
  unfold Service.tryCheck
  rw [← List.append_nil said]
  exact .note (attempted.bind (.done results after))

namespace Registry

def holding (accounts : Provider → Option (Account × Client)) : Registry :=
  ⟨Provider.all.filterMap fun p => (accounts p).map fun s => (p, .ofAccount s.1 s.2)⟩

theorem lookup_filterMap {β : Type} (f : Provider → Option β) (p : Provider)
    (ps : List Provider) :
    (ps.filterMap fun p => (f p).map fun b => (p, b)).lookup p = if p ∈ ps then f p else none := by
  induction ps with
  | nil => rfl
  | cons x xs ih =>
      by_cases same : p = x
      · subst same
        rw [if_pos List.mem_cons_self]
        cases held : f p with
        | none =>
            simp only [List.filterMap_cons, held, Option.map_none, ih]
            split <;> rfl
        | some b =>
            simp only [List.filterMap_cons, held, Option.map_some]
            exact List.lookup_cons_self
      · have member : p ∈ x :: xs ↔ p ∈ xs := by simp [same]
        cases held : f x with
        | none => simp only [List.filterMap_cons, held, Option.map_none, ih, member]
        | some b =>
            simp only [List.filterMap_cons, held, Option.map_some, List.lookup_cons,
              beq_false_of_ne same, ih, member]

theorem mem_all (p : Provider) : p ∈ Provider.all := by
  cases p <;> decide

theorem firstFault_of_ok {runs : List (Provider × Run ResultMap)}
    (fine : ∀ e ∈ runs, ∃ results, e.2.result = .ok results) : firstFault runs = none := by
  induction runs with
  | nil => rfl
  | cons e rest ih =>
      obtain ⟨results, ok⟩ := fine e List.mem_cons_self
      rw [firstFault, ok]
      exact ih fun later member => fine later (List.mem_cons_of_mem e member)

def runOf (accounts : Provider → Option (Account × Client)) (hashes : Value) (p : Provider) :
    Option (Run ResultMap) :=
  (accounts p).map fun s => ((Service.ofAccount s.1 s.2).tryCheck p hashes).run s.2

theorem runs_holding (accounts : Provider → Option (Account × Client)) (hashes : Value) :
    (holding accounts).runs hashes =
      Provider.all.filterMap fun p => (runOf accounts hashes p).map fun run => (p, run) := by
  unfold runs holding
  rw [List.map_filterMap]
  congr 1
  funext p
  rw [runOf]
  cases accounts p <;> rfl

variable {accounts : Provider → Option (Account × Client)} {hashes : List String}
  {held : Provider → String → Bool}

/-- What a provider's part of the results has to be. -/
structure Part (accounts : Provider → Option (Account × Client)) (held : Provider → String → Bool)
    (hashes : List String) (p : Provider) (results : ResultMap) : Prop where
  keys : results.map (·.1) = if (accounts p).isSome then Hash.asked hashes else []
  tells : Account.Tells (held p) results

/-- Every service's check ends with its part of the results. -/
def Sound (accounts : Provider → Option (Account × Client)) (held : Provider → String → Bool)
    (hashes : List String) : Prop :=
  ∀ p a c, accounts p = some (a, c) → ∃ results after said,
    (a.check (.arr (hashes.map .str))).Ends c (.ok results) after said ∧
    Part accounts held hashes p results

theorem part_of_none {p : Provider} (nothing : (accounts p).isSome = false ∨ Hash.asked hashes = []) :
    Part accounts held hashes p [] := by
  refine ⟨?_, fun r member => by cases member⟩
  rcases nothing with absent | empty
  · rw [absent]
    rfl
  · rw [empty]
    split <;> rfl

theorem run_sound (sound : Sound accounts held hashes) {p : Provider} {run : Run ResultMap}
    (runs : runOf accounts (.arr (hashes.map .str)) p = some run) :
    ∃ results, run.result = .ok results ∧ Part accounts held hashes p results := by
  obtain ⟨⟨a, c⟩, here, rfl⟩ := Option.map_eq_some_iff.mp runs
  obtain ⟨results, after, said, ends, part⟩ := sound p a c here
  exact ⟨results, (tryCheck_ends ends).result, part⟩

theorem part_of_runs (sound : Sound accounts held hashes) (p : Provider) :
    Part accounts held hashes p
      (resultsOf ((holding accounts).runs (.arr (hashes.map .str))) p) := by
  unfold resultsOf
  rw [runs_holding, lookup_filterMap, if_pos (mem_all p)]
  cases runs : runOf accounts (.arr (hashes.map .str)) p with
  | none =>
      apply part_of_none
      left
      rw [Option.map_eq_none_iff.mp runs]
      rfl
  | some run =>
      obtain ⟨results, ok, part⟩ := run_sound sound runs
      show Part accounts held hashes p (run.result.toOption.getD [])
      rw [ok]
      exact part

/-- A sweep whose checks all end so lists every provider with its part. -/
theorem sweep_parts (sound : Sound accounts held hashes) :
    ∃ part : Provider → ResultMap,
      ((holding accounts).sweep (.arr (hashes.map .str))).2.result =
        .ok (Provider.all.map fun p => (p.key, part p)) ∧
      ∀ p, Part accounts held hashes p (part p) := by
  by_cases nothing : (!(Value.arr (hashes.map .str)).truthy ||
      (holding accounts).services.isEmpty) = true
  · refine ⟨fun _ => [], ?_, fun p => part_of_none ?_⟩
    · rw [sweep, if_pos nothing]
      rfl
    · rcases Bool.or_eq_true_iff.mp nothing with empty | empty
      · right
        cases hashes with
        | nil => rfl
        | cons h hs => cases empty
      · left
        have absent := List.filterMap_eq_nil_iff.mp (List.isEmpty_iff.mp empty) p (mem_all p)
        rw [Option.map_eq_none_iff.mp absent]
        rfl
  · refine ⟨resultsOf ((holding accounts).runs (.arr (hashes.map .str))), ?_, part_of_runs sound⟩
    have fine : firstFault ((holding accounts).runs (.arr (hashes.map .str))) = none := by
      apply firstFault_of_ok
      intro e member
      rw [runs_holding] at member
      obtain ⟨p, -, made⟩ := List.mem_filterMap.mp member
      obtain ⟨run, runs, rfl⟩ := Option.map_eq_some_iff.mp made
      obtain ⟨results, ok, -⟩ := run_sound sound runs
      exact ⟨results, ok⟩
    rw [sweep, if_neg nothing]
    simp only [fine]
    rfl

theorem cached_of_part {p : Provider} {results : ResultMap}
    (part : Part accounts held hashes p results) (form : String) :
    ((results.lookup form).map (·.cached)).getD false =
      ((accounts p).isSome && (Hash.asked hashes).contains form && held p form) := by
  have distinct : (results.map (·.1)).Nodup := by
    rw [part.keys]
    split
    · exact Hash.nodup_asked hashes
    · exact List.nodup_nil
  rw [ResultMap.cached_of_tells distinct part.tells, part.keys]
  cases (accounts p).isSome <;> rfl

/-- Whatever the spelling in which a hash is looked up, it is cached at just those providers whose parts
have it as held. -/
theorem cachedServices_of_parts {part : Provider → ResultMap}
    (parts : ∀ p, Part accounts held hashes p (part p)) (q : String) :
    cachedServices (Provider.all.map fun p => (p.key, part p)) (.str q) =
      .ok ((Provider.all.filter fun p => (accounts p).isSome &&
        (Hash.asked hashes).contains (Hash.normalize q) && held p (Hash.normalize q)).map
          Provider.key) := by
  rw [cachedServices_text, List.filter_map, List.map_map]
  refine congrArg (fun names => Except.ok (names.map Provider.key)) (List.filter_congr ?_)
  intro p _
  exact cached_of_part (parts p) (Hash.normalize q)

/-- A sweep over honestly answered services gives every provider its part, and whatever the spelling in
which a hash is looked up, it is cached at just those enabled providers that were asked for it and hold
it, in the order of the providers. AllDebrid's agent and key stand in the address, and an address that
is too long is never sent, so never answered. -/
theorem sweep_honest (accounts : Provider → Option (Account × Client))
    (held : Provider → String → Bool) (hashes : List String)
    (plain : ∀ h ∈ hashes, Hash.Plain (Hash.normalize h))
    (made : ∀ p a c, accounts p = some (a, c) → ∃ key timeout agent size delay,
      (∀ ch ∈ key.toList, ch.toNat < 128) ∧
      Account.create p ⟨.str key, timeout, .int size, .float delay, agent⟩ = .ok a)
    (isOpen : ∀ p a c, accounts p = some (a, c) → c.isClosed = false)
    (fits : ∀ a c, accounts .allDebrid = some (a, c) →
      (Wire.encodeFields a.queryFields).length ≤ Wire.longest)
    (answered : ∀ p a c, accounts p = some (a, c) → a.AnsweredHonestly c (held p) hashes) :
    ∃ part : Provider → ResultMap,
      ((holding accounts).sweep (.arr (hashes.map .str))).2.result =
        .ok (Provider.all.map fun p => (p.key, part p)) ∧
      (∀ p, (part p).map (·.1) = (if (accounts p).isSome then Hash.asked hashes else []) ∧
        ∀ r ∈ part p, r.2.cached = held p r.1) ∧
      ∀ q : String, cachedServices (Provider.all.map fun p => (p.key, part p)) (.str q) =
        .ok ((Provider.all.filter fun p => (accounts p).isSome &&
          (Hash.asked hashes).contains (Hash.normalize q) && held p (Hash.normalize q)).map
            Provider.key) := by
  have plainly : ∀ form ∈ Hash.asked hashes, Hash.Plain form := by
    intro form asked
    obtain ⟨h, member, -, rfl⟩ := Hash.mem_asked.mp asked
    exact plain h member
  have sound : Sound accounts held hashes := by
    intro p a c here
    obtain ⟨key, timeout, agent, size, delay, ascii, opened⟩ := made p a c here
    rw [Account.create_eq_opened] at opened
    cases opened
    have regular := Account.opened_regular p (.str key) timeout size delay agent
    have short : p = .allDebrid → (Wire.encodeFields (Account.opened p (.str key) timeout size delay
        agent).queryFields).length ≤ Wire.longest := by
      rintro rfl
      exact fits _ c here
    have reaches := Account.opened_reaches ascii (isOpen p _ c here) short
    obtain ⟨results, after, said, ends, keys, tells⟩ :=
      Account.check_honest regular reaches plainly (answered p _ c here)
    refine ⟨results, after, said, ends, ?_, tells⟩
    rw [here]
    exact keys
  obtain ⟨part, swept, parts⟩ := sweep_parts sound
  exact ⟨part, swept, fun p => ⟨(parts p).keys, (parts p).tells⟩, cachedServices_of_parts parts⟩

/-- Torbox alone, whose transport always answers that one torrent is held, in a spelling of its own. -/
def torboxAlone : Provider → Option (Account × Client)
  | .torbox => some (Account.opened .torbox (.str "key") .null 0 (.ofNat 0) .null,
      ⟨false, [], .answered ⟨200, [123, 34, 115, 117, 99, 99, 101, 115, 115, 34, 58, 116, 114, 117,
        101, 44, 34, 100, 97, 116, 97, 34, 58, 123, 34, 65, 65, 34, 58, 123, 125, 125, 125], 1000⟩⟩)
  | _ => none

theorem honest_of_one (batch : List String) :
    Provider.torbox.Honest (· == "aa") batch
      (.obj [("success", .bool true), ("data", .obj [("AA", .obj [])])]) := by
  have lower : String.ofList (Text.lower "AA".toList) = "aa" := rfl
  refine ⟨_, _, rfl, rfl, rfl, ?_, ?_⟩
  · intro h member
    constructor
    · intro same
      exact ⟨_, List.mem_cons_self, lower.trans (beq_iff_eq.mp same).symm⟩
    · rintro ⟨m, inside, named⟩
      cases List.mem_singleton.mp inside
      exact beq_iff_eq.mpr (named.symm.trans lower)
  · intro m inside
    cases List.mem_singleton.mp inside
    exact .inl rfl

theorem sweep_honest_of_torbox :
    ∃ part : Provider → ResultMap,
      ((holding torboxAlone).sweep (.arr ([" AA ", "bb", "aa"].map .str))).2.result =
        .ok (Provider.all.map fun p => (p.key, part p)) ∧
      (part .torbox).map (·.1) = ["aa", "bb"] ∧ part .allDebrid = [] ∧
      cachedServices (Provider.all.map fun p => (p.key, part p)) (.str "Aa ") = .ok ["torbox"] ∧
      cachedServices (Provider.all.map fun p => (p.key, part p)) (.str "BB") = .ok [] := by
  have plain : ∀ h ∈ [" AA ", "bb", "aa"], Hash.Plain (Hash.normalize h) := by decide
  have made (p : Provider) (a : Account) (c : Client) (here : torboxAlone p = some (a, c)) :
      ∃ key timeout agent size delay, (∀ ch ∈ key.toList, ch.toNat < 128) ∧
        Account.create p ⟨.str key, timeout, .int size, .float delay, agent⟩ = .ok a := by
    cases p with
    | torbox =>
        cases here
        exact ⟨"key", .null, .null, 0, .ofNat 0, Wire.forall_of_all (by decide), rfl⟩
    | realDebrid => cases here
    | allDebrid => cases here
  have isOpen (p : Provider) (a : Account) (c : Client) (here : torboxAlone p = some (a, c)) :
      c.isClosed = false := by
    cases p with
    | torbox =>
        cases here
        rfl
    | realDebrid => cases here
    | allDebrid => cases here
  have answered (p : Provider) (a : Account) (c : Client) (here : torboxAlone p = some (a, c)) :
      a.AnsweredHonestly c (· == "aa") [" AA ", "bb", "aa"] := by
    cases p with
    | torbox =>
        cases here
        apply Account.answeredHonestly_always (Account.opened_regular _ _ _ _ _ _) ?_ rfl rfl
        · intro b _
          exact honest_of_one b
        · intro h member
          obtain ⟨g, listed, -, rfl⟩ := Hash.mem_asked.mp member
          exact plain g listed
    | realDebrid => cases here
    | allDebrid => cases here
  obtain ⟨part, swept, parts, found⟩ :=
    sweep_honest torboxAlone (fun _ => (· == "aa")) [" AA ", "bb", "aa"] plain made isOpen
      (fun a c here => by cases here) answered
  refine ⟨part, swept, (parts .torbox).1, ?_, found "Aa ", found "BB"⟩
  exact List.map_eq_nil_iff.mp (parts .allDebrid).1

def oneInstant : Wire.Response :=
  ⟨200, [123, 34, 115, 116, 97, 116, 117, 115, 34, 58, 34, 115, 117, 99, 99, 101, 115, 115, 34, 44, 34,
    100, 97, 116, 97, 34, 58, 123, 34, 109, 97, 103, 110, 101, 116, 115, 34, 58, 91, 123, 34, 105, 110,
    115, 116, 97, 110, 116, 34, 58, 116, 114, 117, 101, 125, 93, 125, 125], 1000⟩

/-- AllDebrid alone, under a key that no address can carry. -/
def allDebridAlone : Provider → Option (Account × Client)
  | .allDebrid => some (.keyed Account.longKey, ⟨false, [], .answered oneInstant⟩)
  | _ => none

/-- An honest transport does not help where nothing can be asked: a hash that AllDebrid holds is not
cached there. -/
theorem sweep_not_honest :
    (∀ p a c, allDebridAlone p = some (a, c) → (∃ key timeout agent size delay,
      (∀ ch ∈ key.toList, ch.toNat < 128) ∧
      Account.create p ⟨.str key, timeout, .int size, .float delay, agent⟩ = .ok a) ∧
      c.isClosed = false ∧ a.AnsweredHonestly c (· == "aa") ["aa"]) ∧
    Hash.Plain (Hash.normalize "aa") ∧
    ∃ part : Provider → ResultMap,
      ((holding allDebridAlone).sweep (.arr (["aa"].map .str))).2.result =
        .ok (Provider.all.map fun p => (p.key, part p)) ∧
      (part .allDebrid).map (·.1) = ["aa"] ∧ (∀ r ∈ part .allDebrid, r.2.cached = false) ∧
      cachedServices (Provider.all.map fun p => (p.key, part p)) (.str "aa") = .ok [] := by
  have regular := (Account.keyed_limited Account.longKey).regular
  have plain : ∀ h ∈ Hash.asked ["aa"], Hash.Plain h := by decide
  have honest : ∀ b ∈ (Account.keyed Account.longKey).batches (Hash.asked ["aa"]),
      Provider.allDebrid.Honest (· == "aa") b (.obj [("status", .str "success"),
        ("data", .obj [("magnets", .arr [.obj [("instant", .bool true)]])])]) := by
    intro b member
    rw [Account.batches_whole rfl (by decide)] at member
    cases List.mem_singleton.mp member
    refine ⟨_, _, _, rfl, rfl, rfl, rfl, rfl, ?_⟩
    intro pair paired
    cases List.mem_singleton.mp paired
    exact ⟨.inl rfl, _, rfl, iff_of_true rfl rfl⟩
  have long : Wire.longest < (Wire.encodeFields (Account.keyed Account.longKey).queryFields).length :=
    Account.length_longKey ▸ Account.length_lt_query Account.longKey
  have sound : Sound allDebridAlone (fun _ _ => false) ["aa"] := by
    intro p a c here
    cases p with
    | allDebrid =>
        cases here
        obtain ⟨after, said, ends⟩ := Account.check_overlong regular long ["aa"]
          (Client.steady_always (Outcome.met_of_answered rfl))
        refine ⟨_, after, said, ends, rfl, ?_⟩
        intro r member
        cases List.mem_singleton.mp member
        rfl
    | realDebrid => cases here
    | torbox => cases here
  obtain ⟨part, swept, parts⟩ := sweep_parts sound
  refine ⟨?_, by decide, part, swept, (parts .allDebrid).keys, (parts .allDebrid).tells, ?_⟩
  · intro p a c here
    cases p with
    | allDebrid =>
        cases here
        refine ⟨⟨Account.longKey, .null, .str Account.defaultAgent, 0, .ofNat 0, Account.longKey_ascii, rfl⟩,
          rfl, ?_⟩
        exact Account.answeredHonestly_always regular plain rfl rfl honest
    | realDebrid => cases here
    | torbox => cases here
  · rw [cachedServices_of_parts parts]
    rfl

end Registry
end DebridCache
