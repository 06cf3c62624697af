import Mathlib.Data.List.DropRight
import DebridCache.Configuration
import DebridCache.Proofs.Registry

/-!
The settings in force over a history of operations. What is around the program may change with every
operation; the settings in force are those that the first operation since the last clearing could read, and
all others go by them. A reading that fails is not kept, so the next one is made anew.
-/

namespace DebridCache

namespace ConfigurationOperation

/-- What is around the program at an operation that goes by the settings in force. -/
def around? : ConfigurationOperation → Option Settings.Surroundings
  | .settings around | .accounts around | .titleDatabase around => some around
  | .make _ | .clear => none

def isClear : ConfigurationOperation → Bool
  | .clear => true
  | _ => false

def read? (o : ConfigurationOperation) : Option Settings :=
  o.around?.bind fun around => (Settings.load around.sources).toOption

def shown (s : Settings) : ConfigurationOperation → ConfigurationReply
  | .settings _ => .settings s
  | .accounts _ => .accounts (s.usable.map fun p => (p, s.opened p))
  | .titleDatabase _ => .titleDatabase s.titleDatabase
  | .make _ | .clear => .nothing

end ConfigurationOperation

open ConfigurationOperation (read? isClear)

theorem Settings.load_error {sources : Sources} {f : Fault} (failed : load sources = .error f) :
    ∃ problems, f = .invalidSettings problems := by
  unfold load at failed
  split at failed
  · cases failed
  · cases failed
    exact ⟨_, rfl⟩

namespace Snapshot

variable {o : ConfigurationOperation} {around : Settings.Surroundings} {s : Settings}

/-- The settings that the first operation since the last clearing could read. -/
def firstRead (ops : List ConfigurationOperation) : Snapshot :=
  (ops.rtakeWhile fun o => !o.isClear).findSome? read?

theorem firstRead_concat (ops : List ConfigurationOperation) (o : ConfigurationOperation) :
    firstRead (ops ++ [o]) = if o.isClear then none else (firstRead ops).or o.read? := by
  unfold firstRead
  rw [List.rtakeWhile_concat]
  cases o.isClear with
  | true => rfl
  | false =>
      rw [Bool.not_false, if_pos rfl, List.findSome?_append, List.findSome?_singleton]
      rfl

/-- What has been read stays until it is cleared. -/
theorem firstRead_stays {before between : List ConfigurationOperation}
    (held : firstRead before = some s) (kept : ∀ o ∈ between, o.isClear = false) :
    firstRead (before ++ between) = some s := by
  induction between using List.reverseRecOn with
  | nil => rwa [List.append_nil]
  | append_singleton between o ih =>
      have still := ih fun p member => kept p (List.mem_append_left _ member)
      have last := kept o (List.mem_append_right _ (List.mem_singleton_self o))
      rw [← List.append_assoc, firstRead_concat, still, last]
      rfl

theorem get_none (around : Settings.Surroundings) : get none around =
    ((Settings.load around.sources).toOption, Settings.load around.sources) := by
  unfold get
  cases Settings.load around.sources <;> rfl

theorem perform_eq (held : Snapshot) (goes : o.around? = some around) :
    held.perform o = ((held.get around).1, (held.get around).2.map fun s => o.shown s) := by
  have answered (reply : Settings → Except Fault ConfigurationReply)
      (shows : ∀ s, reply s = .ok (o.shown s)) : held.answer around reply =
        ((held.get around).1, (held.get around).2.map fun s => o.shown s) := by
    unfold answer
    rcases held.get around with ⟨after, f | s⟩
    · rfl
    · exact congrArg (after, ·) (shows s)
  cases o with
  | make sources => cases goes
  | clear => cases goes
  | settings around =>
      cases goes
      exact answered _ fun s => rfl
  | accounts around =>
      cases goes
      exact answered _ fun s => congrArg (Except.map _) s.accounts_eq
  | titleDatabase around =>
      cases goes
      exact answered _ fun s => rfl

/-- All that such an operation can do: show the settings in force, or those around it, which then are in
force, or fail on those around it with nothing in force before and after. -/
theorem perform_cases (held : Snapshot) (goes : o.around? = some around) :
    (∃ s, held.perform o = (some s, .ok (o.shown s)) ∧
      (held = some s ∨ held = none ∧ Settings.load around.sources = .ok s)) ∨
    ∃ problems, held.perform o = (none, .error (.invalidSettings problems)) ∧ held = none ∧
      Settings.load around.sources = .error (.invalidSettings problems) := by
  rw [perform_eq held goes]
  cases held with
  | some s => exact .inl ⟨s, rfl, .inl rfl⟩
  | none =>
      rw [get_none]
      cases loaded : Settings.load around.sources with
      | ok s => exact .inl ⟨s, rfl, .inr ⟨rfl, rfl⟩⟩
      | error f =>
          obtain ⟨problems, rfl⟩ := Settings.load_error loaded
          exact .inr ⟨problems, rfl, rfl, rfl⟩

theorem firstRead_perform (ops : List ConfigurationOperation) (o : ConfigurationOperation) :
    firstRead (ops ++ [o]) = ((firstRead ops).perform o).1 := by
  have got (around : Settings.Surroundings) :
      (firstRead ops).or (Settings.load around.sources).toOption = ((firstRead ops).get around).1 := by
    cases firstRead ops with
    | some s => rfl
    | none => exact (congrArg Prod.fst (get_none around)).symm
  rw [firstRead_concat]
  cases o with
  | make sources => exact Option.or_none
  | settings around => exact got around
  | accounts around => exact got around
  | titleDatabase around => exact got around
  | clear => rfl

theorem performAll_append (held : Snapshot) (os ps : List ConfigurationOperation) :
    held.performAll (os ++ ps) =
      (((held.performAll os).1.performAll ps).1,
        (held.performAll os).2 ++ ((held.performAll os).1.performAll ps).2) := by
  induction os generalizing held with
  | nil => rfl
  | cons o os ih => simp only [List.cons_append, performAll, ih]

theorem length_performAll (held : Snapshot) (os : List ConfigurationOperation) :
    (held.performAll os).2.length = os.length := by
  induction os generalizing held with
  | nil => rfl
  | cons o os ih => exact congrArg Nat.succ (ih _)

/-- The settings in force after any history are those of the first reading since the last clearing. -/
theorem performAll_held (ops : List ConfigurationOperation) :
    (performAll none ops).1 = firstRead ops := by
  induction ops using List.reverseRecOn with
  | nil => rfl
  | append_singleton ops o ih =>
      rw [performAll_append, ih, firstRead_perform]
      rfl

theorem reply_at (before after : List ConfigurationOperation) (o : ConfigurationOperation) :
    (performAll none (before ++ o :: after)).2[before.length]? = some ((firstRead before).perform o).2 := by
  rw [performAll_append, performAll_held, List.getElem?_append_right (length_performAll none before).le,
    length_performAll, Nat.sub_self]
  rfl

/-- Settings in force are shown by every operation that goes by them, up to the next clearing. -/
theorem reply_later {before between : List ConfigurationOperation} (held : firstRead before = some s)
    (kept : ∀ o ∈ between, o.isClear = false) (goes : o.around? = some around)
    (rest : List ConfigurationOperation) :
    (performAll none (before ++ (between ++ o :: rest))).2[before.length + between.length]? =
      some (.ok (o.shown s)) := by
  rw [← List.append_assoc, ← List.length_append, reply_at, firstRead_stays held kept,
    perform_eq _ goes]
  rfl

def flawedAround : Settings.Surroundings := ⟨[("USE_TORBOX", "maybe")], none⟩

def torboxAround : Settings.Surroundings := ⟨[("USE_TORBOX", "yes"), ("TORBOX_API_KEY", "key")], none⟩

end Snapshot
end DebridCache
