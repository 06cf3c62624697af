/-!
Tables by name as lists of entries, in the order in which the names first came. A name put again keeps
its place and changes its value; `lookup_put` and `keys_put` say so.
-/

namespace DebridCache

abbrev Table (α : Type) := List (String × α)

namespace Table

variable {α : Type}

def put (name : String) (a : α) : Table α → Table α
  | [] => [(name, a)]
  | (n, b) :: rest => if n = name then (n, a) :: rest else (n, b) :: put name a rest

def keys (t : Table α) : List String := t.map (·.1)

theorem lookup_entry (name : String) (a : α) (rest : Table α) (other : String) :
    List.lookup other ((name, a) :: rest) = if other = name then some a else rest.lookup other := by
  by_cases h : other = name
  · simp [h]
  · simp [List.lookup_cons, beq_false_of_ne h, h]

theorem lookup_put (name : String) (a : α) (t : Table α) (other : String) :
    (put name a t).lookup other = if other = name then some a else t.lookup other := by
  induction t with
  | nil => exact lookup_entry name a [] other
  | cons e rest ih =>
    obtain ⟨n, b⟩ := e
    by_cases hn : n = name
    · subst hn
      simp only [put, if_true, lookup_entry]
      split <;> rfl
    · simp only [put, if_neg hn, lookup_entry, ih]
      by_cases h : other = n
      · simp [h, hn]
      · simp [h]

theorem keys_put (name : String) (a : α) (t : Table α) :
    (put name a t).keys = if name ∈ t.keys then t.keys else t.keys ++ [name] := by
  induction t with
  | nil => simp [put, keys]
  | cons e rest ih =>
    obtain ⟨n, b⟩ := e
    by_cases hn : n = name
    · simp [put, keys, hn]
    · have hm : name ≠ n := fun h => hn h.symm
      simp only [keys] at ih
      by_cases h : name ∈ rest.map (·.1) <;>
        simp_all [put, keys]

end Table
end DebridCache
