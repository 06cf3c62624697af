import Mathlib.Data.List.Basic
import DebridCache.Proofs.Availability.Honest

/-!
Answers that list an entry for each hash. Torbox's and AllDebrid's are read alike: hash by hash, each
status off the entry of its own hash, and a reading fails only for files that cannot be listed.
-/

namespace DebridCache

open Availability (filesOf statusOfEntry statusOfMagnet entryOf? isInstant)

def Value.listing : Value → List Value
  | .arr items => items
  | .str s => s.toList.map fun c => .str (String.singleton c)
  | .obj members => members.map fun m => .str m.1
  | _ => []

/-- True, or a number other than zero: it counts as true and cannot be gone through. -/
def Value.Unlistable : Value → Prop
  | .bool b => b = true
  | .int n => n ≠ 0
  | .float x => x.isZero = false
  | _ => False

namespace Provider

/-- The answer lists entries: Torbox's by hash, AllDebrid's in the order asked. -/
def Lists (p : Provider) (answer : Value) : Prop :=
  match p with
  | .realDebrid => False
  | .torbox => (answer.memberOrNull "success").truthy = true ∧
      ∃ members, answer.memberOrNull "data" = .obj members
  | .allDebrid => answer.memberOrNull "status" = .str "success" ∧
      ∃ entries, (answer.memberOrNull "data").memberOrNull "magnets" = .arr entries

def entryIn? (p : Provider) (hashes : List String) (answer : Value) (h : String) : Option Value :=
  match p with
  | .realDebrid => none
  | .torbox =>
    match answer.memberOrNull "data" with
    | .obj members => entryOf? members h
    | _ => none
  | .allDebrid =>
    match (answer.memberOrNull "data").memberOrNull "magnets" with
    | .arr entries => entries[hashes.idxOf h]?
    | _ => none

/-- The answer says that a hash is cached: Torbox by a key that is the hash in lowercase, AllDebrid by an
object at its place whose `instant` is true. -/
def Says (p : Provider) (hashes : List String) (answer : Value) (h : String) : Prop :=
  match p with
  | .realDebrid => False
  | .torbox => ∃ members m, answer.memberOrNull "data" = .obj members ∧ m ∈ members ∧
      String.ofList (Text.lower m.1.toList) = h
  | .allDebrid => ∃ entries entry,
      (answer.memberOrNull "data").memberOrNull "magnets" = .arr entries ∧
      entries[hashes.idxOf h]? = some (.obj entry) ∧ entry.lookup "instant" = some (.bool true)

/-- Some hash has an entry whose files cannot be listed. -/
def Spoiled (p : Provider) (hashes : List String) (answer : Value) : Prop :=
  ∃ h ∈ hashes, ∃ entry, p.entryIn? hashes answer h = some entry ∧
    (entry.memberOrNull "files").Unlistable

def blank (h : String) (m : String × Value) : String × Value :=
  if String.ofList (Text.lower m.1.toList) = h then (m.1, .null) else m

/-- Two answers list the same but for the value of the entry of one hash. -/
def SameBut (p : Provider) (hashes : List String) (h : String) (answer other : Value) : Prop :=
  match p with
  | .realDebrid => False
  | .torbox => ∃ ms ns, answer.memberOrNull "data" = .obj ms ∧ other.memberOrNull "data" = .obj ns ∧
      ms.map (blank h) = ns.map (blank h)
  | .allDebrid => ∃ es fs, (answer.memberOrNull "data").memberOrNull "magnets" = .arr es ∧
      (other.memberOrNull "data").memberOrNull "magnets" = .arr fs ∧
      es.set (hashes.idxOf h) .null = fs.set (hashes.idxOf h) .null

/-- Whether an entry marks its hash as cached. At Torbox every entry does. -/
def marks (p : Provider) (entry : Value) : Bool :=
  match p with
  | .allDebrid => isInstant (entry.memberOrNull "instant")
  | _ => true

def readEntry (p : Provider) : Option Value → Except Fault CacheStatus
  | none => .ok (.uncached p.displayName)
  | some entry => do return ⟨p.marks entry, p.displayName, ← filesOf (entry.memberOrNull "files")⟩

/-- The status that the entry of a hash gives where all files can be listed. -/
def statusOf (p : Provider) : Option Value → CacheStatus
  | none => .uncached p.displayName
  | some entry => ⟨p.marks entry, p.displayName,
      (filesOf (entry.memberOrNull "files")).toOption.getD []⟩

theorem filesOf_unlistable {v : Value} (bad : v.Unlistable) : filesOf v = .error v.notIterable := by
  cases v with
  | bool b =>
      cases b with
      | true => rfl
      | false => cases bad
  | int n =>
      have truthy : (Value.int n).truthy = true := decide_eq_true bad
      rw [filesOf, truthy]
      rfl
  | float x =>
      have truthy : (Value.float x).truthy = true := by
        show (!x.isZero) = true
        rw [show x.isZero = false from bad]
        rfl
      rw [filesOf, truthy]
      rfl
  | _ => cases bad

theorem filesOf_eq_listing {v : Value} (good : ¬ v.Unlistable) : filesOf v = .ok v.listing := by
  unfold filesOf
  split
  · rename_i truthy
    cases v with
    | null => cases truthy
    | bool b => exact absurd truthy good
    | int n => exact absurd (of_decide_eq_true truthy) good
    | float x => exact absurd (show x.isZero = false by simpa [Value.truthy] using truthy) good
    | _ => rfl
  · rename_i falsy
    cases v with
    | str s =>
        have empty : s = "" := Decidable.not_not.mp fun some => falsy (decide_eq_true some)
        rw [empty]
        rfl
    | arr items =>
        cases items with
        | nil => rfl
        | cons item rest => exact absurd rfl falsy
    | obj members =>
        cases members with
        | nil => rfl
        | cons m rest => exact absurd rfl falsy
    | _ => rfl

theorem readEntry_unlistable (p : Provider) {entry : Value}
    (bad : (entry.memberOrNull "files").Unlistable) :
    p.readEntry (some entry) = .error (entry.memberOrNull "files").notIterable := by
  rw [readEntry, filesOf_unlistable bad]
  rfl

theorem readEntry_listable (p : Provider) {item : Option Value}
    (good : ∀ entry, item = some entry → ¬ (entry.memberOrNull "files").Unlistable) :
    p.readEntry item = .ok (p.statusOf item) := by
  cases item with
  | none => rfl
  | some entry =>
      rw [readEntry, statusOf, filesOf_eq_listing (good entry rfl)]
      rfl

theorem statusOfEntry_eq (item : Option Value) :
    statusOfEntry "Torbox" item = torbox.readEntry item := by
  cases item <;> rfl

theorem statusOfMagnet_eq (entry : Value) :
    statusOfMagnet "AllDebrid" entry = allDebrid.readEntry (some entry) := by
  cases entry <;> rfl

theorem lookup_zip {hashes : List String} (entries : List Value) {h : String} (member : h ∈ hashes) :
    (hashes.zip entries).lookup h = entries[hashes.idxOf h]? := by
  induction hashes generalizing entries with
  | nil => cases member
  | cons g gs ih =>
      cases entries with
      | nil => simp
      | cons e es =>
          by_cases same : h = g
          · subst same
            simp
          · rw [List.zip_cons_cons, List.lookup_cons, beq_false_of_ne same, List.idxOf_cons,
              beq_false_of_ne (Ne.symm same)]
            exact ih es ((List.mem_cons.mp member).resolve_left same)

theorem entry_of_mem_zip {hashes : List String} (distinct : hashes.Nodup) {entries : List Value}
    {h : String} {entry : Value} (member : (h, entry) ∈ hashes.zip entries) :
    entries[hashes.idxOf h]? = some entry := by
  obtain ⟨i, paired⟩ := List.mem_iff_getElem?.mp member
  obtain ⟨here, there⟩ := List.getElem?_zip_eq_some.mp paired
  obtain ⟨inside, rfl⟩ := List.getElem?_eq_some_iff.mp here
  rw [distinct.idxOf_getElem]
  exact there

/-- The entries that are read, each with its hash. A hash that is passed over has no entry. -/
structure Listing (p : Provider) (hashes : List String) (answer : Value)
    (listed : List (String × Option Value)) : Prop where
  read : Availability.read p hashes answer =
    (listed.mapM fun x => do return (x.1, ← p.readEntry x.2)) >>= fun found => .ok (.found found)
  own : ∀ x ∈ listed, x.1 ∈ hashes ∧ p.entryIn? hashes answer x.1 = x.2
  whole : ∀ h ∈ hashes, (listed.lookup h).getD none = p.entryIn? hashes answer h

theorem listing_torbox {hashes : List String} {answer : Value} (lists : torbox.Lists answer) :
    ∃ listed, torbox.Listing hashes answer listed := by
  obtain ⟨success, members, data⟩ := lists
  refine ⟨hashes.map fun h => (h, entryOf? members h), ?_, ?_, ?_⟩
  · obtain ⟨fields, rfl, listed⟩ := Availability.lookup_of_memberOrNull (by nofun) data
    cases found : fields.lookup "success" with
    | none =>
        rw [Value.memberOrNull, found] at success
        cases success
    | some v =>
        rw [Value.memberOrNull, found] at success
        rw [Account.read_data hashes found success listed, List.mapM_map]
        simp only [statusOfEntry_eq]
        rfl
  · intro x member
    obtain ⟨h, asked, rfl⟩ := List.mem_map.mp member
    refine ⟨asked, ?_⟩
    rw [entryIn?, data]
  · intro h member
    rw [lookup_map_of_mem _ member, entryIn?, data]
    rfl

theorem listing_allDebrid {hashes : List String} (distinct : hashes.Nodup) {answer : Value}
    (lists : allDebrid.Lists answer) : ∃ listed, allDebrid.Listing hashes answer listed := by
  obtain ⟨status, entries, magnets⟩ := lists
  refine ⟨(hashes.zip entries).map fun x => (x.1, some x.2), ?_, ?_, ?_⟩
  · obtain ⟨data, inside, listed⟩ := Availability.lookup_of_memberOrNull (by nofun) magnets
    obtain ⟨fields, rfl, held⟩ := Availability.lookup_of_memberOrNull (by nofun) inside
    obtain ⟨fields', same, success⟩ := Availability.lookup_of_memberOrNull (by nofun) status
    cases same
    rw [Account.read_magnets hashes success held listed, List.mapM_map]
    simp only [statusOfMagnet_eq]
    rfl
  · intro x member
    obtain ⟨pair, paired, rfl⟩ := List.mem_map.mp member
    refine ⟨(List.of_mem_zip paired).1, ?_⟩
    rw [entryIn?, magnets]
    exact entry_of_mem_zip distinct paired
  · intro h member
    rw [lookup_map fun _ => some, lookup_zip entries member, entryIn?, magnets]
    show (entries[hashes.idxOf h]?.map some).getD none = entries[hashes.idxOf h]?
    cases entries[hashes.idxOf h]? <;> rfl

/-- Saying that a hash is cached is what makes it cached, if the answer is not spoiled. -/
theorem says_iff {p : Provider} {hashes : List String} {answer : Value} (lists : p.Lists answer)
    (h : String) :
    p.Says hashes answer h ↔ (p.statusOf (p.entryIn? hashes answer h)).cached = true := by
  cases p with
  | realDebrid => cases lists
  | torbox =>
      obtain ⟨-, members, data⟩ := lists
      have named : (entryOf? members h).isSome = true ↔ _ := Account.entryOf?_isSome
      simp only [Says, entryIn?, data, Value.obj.injEq, exists_and_left, exists_eq_left']
      rw [← named]
      cases entryOf? members h with
      | none => exact Iff.rfl
      | some entry => exact Iff.rfl
  | allDebrid =>
      obtain ⟨-, entries, magnets⟩ := lists
      simp only [Says, entryIn?, magnets, Value.arr.injEq, exists_and_left, exists_eq_left']
      cases entries[hashes.idxOf h]? with
      | none => simp [statusOf, CacheStatus.uncached]
      | some entry =>
          cases entry with
          | obj members =>
              simp only [Option.some.injEq, Value.obj.injEq, exists_eq_left']
              exact Account.isInstant_iff.symm
          | _ => simp [statusOf, marks, Value.memberOrNull, isInstant]

theorem entryOf?_blank {h g : String} (other : g ≠ h) (members : List (String × Value)) :
    entryOf? (members.map (blank h)) g = entryOf? members g := by
  have key (m : String × Value) : (blank h m).1 = m.1 := by
    unfold blank
    split <;> rfl
  have value {m : String × Value} (named : String.ofList (Text.lower m.1.toList) = g) :
      blank h m = m := by
    unfold blank
    rw [if_neg]
    rw [named]
    exact other
  unfold entryOf?
  rw [← List.map_reverse, List.find?_map, Option.map_map]
  simp only [Function.comp_def, key]
  cases found : members.reverse.find? fun m => String.ofList (Text.lower m.1.toList) = g with
  | none => rfl
  | some m =>
      have named : String.ofList (Text.lower m.1.toList) = g := by simpa using List.find?_some found
      rw [Option.map_some, value named, Option.map_some]

/-- Answers that are the same but for one hash have the same entries for all others. -/
theorem entryIn?_same {p : Provider} {hashes : List String} {h : String} {answer other : Value}
    (same : p.SameBut hashes h answer other) {g : String} (member : g ∈ hashes) (apart : g ≠ h) :
    p.entryIn? hashes other g = p.entryIn? hashes answer g := by
  cases p with
  | realDebrid => cases same
  | torbox =>
      obtain ⟨ms, ns, here, there, blanked⟩ := same
      simp only [entryIn?, here, there]
      rw [← entryOf?_blank apart ns, ← blanked, entryOf?_blank apart]
  | allDebrid =>
      obtain ⟨es, fs, here, there, blanked⟩ := same
      have elsewhere : hashes.idxOf h ≠ hashes.idxOf g :=
        fun place => apart ((List.idxOf_inj member).mp place.symm)
      simp only [entryIn?, here, there]
      rw [← List.getElem?_set_ne elsewhere, ← blanked, List.getElem?_set_ne elsewhere]

end Provider
end DebridCache
