import DebridCache.Session

/-!
Sessions from operation to operation. What each operation keeps a whole sequence keeps, scopes included;
so the account stays what it is unless something assigns to it.
-/

namespace DebridCache

inductive Operation.Keeps : Operation → Prop
  | check (input : Value) : Keeps (.check input)
  | act (action : Action) : Keeps (.act action)
  | inspect : Keeps .inspect
  | close : Keeps .close
  | unsupported (member : String) : Keeps (.unsupported member)
  | scope {inner : List Operation} (each : ∀ o ∈ inner, o.Keeps) : Keeps (.scope inner)

/-- An operation that neither shows the account's attributes nor assigns to them. -/
inductive Operation.Public : Operation → Prop
  | check (input : Value) : Public (.check input)
  | act (action : Action) : Public (.act action)
  | close : Public .close
  | unsupported (member : String) : Public (.unsupported member)
  | scope {inner : List Operation} (each : ∀ o ∈ inner, o.Public) : Public (.scope inner)

theorem Operation.Public.keeps {o : Operation} (plain : o.Public) : o.Keeps := by
  induction plain with
  | check input => exact .check input
  | act action => exact .act action
  | close => exact .close
  | unsupported member => exact .unsupported member
  | scope _ ih => exact .scope ih

namespace Session

variable {a : Account} {s : Session}

theorem performAll_cons (s : Session) (o : Operation) (os : List Operation) :
    s.performAll (o :: os) = (((s.perform o).1.performAll os).1,
      (s.perform o).2 :: ((s.perform o).1.performAll os).2) := by
  rw [performAll]

theorem performAll_preserves {P : Session → Prop} {ops : List Operation}
    (each : ∀ o ∈ ops, ∀ s, P s → P (s.perform o).1) (holds : P s) : P (s.performAll ops).1 := by
  induction ops generalizing s with
  | nil =>
      rw [performAll]
      exact holds
  | cons o os ih =>
      rw [performAll_cons]
      exact ih (fun p later => each p (List.mem_cons_of_mem o later)) (each o List.mem_cons_self s holds)

theorem perform_account {o : Operation} (keeps : o.Keeps) (s : Session) :
    s.account = a → (s.perform o).1.account = a := by
  induction keeps generalizing s with
  | scope each ih =>
      intro own
      rw [perform]
      exact performAll_preserves ih own
  | _ =>
      intro own
      rw [perform]
      exact own

theorem performAll_account {ops : List Operation} (keeps : ∀ o ∈ ops, o.Keeps) (s : Session) :
    (s.performAll ops).1.account = s.account :=
  performAll_preserves (P := fun t => t.account = s.account)
    (fun o member t own => perform_account (keeps o member) t own) rfl

end Session
end DebridCache
