import DebridCache.Proofs.Availability.Check

/-!
What a check keeps to whatever its account holds and whatever it is asked: nothing withdraws it but the
outcome of a request.
-/

namespace DebridCache

open Wire (Outcome)

theorem Value.less_failsOnly (v w : Value) : FailsOnly (· ≠ .cancelled) (v.less w) := by
  unfold Value.less
  split
  · exact .ok _
  · exact .error nofun

theorem Value.greater_failsOnly (v w : Value) : FailsOnly (· ≠ .cancelled) (v.greater w) := by
  unfold Value.greater
  split
  · exact .ok _
  · exact .error nofun

theorem Value.spell_failsOnly (v : Value) : FailsOnly (· = .longNumber) v.spell := by
  unfold Value.spell
  split
  · exact .ok _
  · exact .error rfl

theorem Hash.unique_failsOnly (input : Value) : FailsOnly (· ≠ .cancelled) (Hash.unique input) := by
  have form (v : Value) : FailsOnly (· ≠ .cancelled) (Hash.normalForm v) := by
    cases v with
    | str s => exact .ok _
    | _ => exact .error nofun
  unfold Hash.unique
  split
  · exact input.elements_failsOnly.bind fun items => (FailsOnly.mapM form).bind fun forms => .ok _
  · exact .ok []

namespace Batch

variable {α β : Type}

theorem refusal_ne_cancelled (size : Value) : refusal size ≠ .cancelled := by
  unfold refusal
  split
  · exact nofun
  · rename_i f long
    rw [size.spell_failsOnly f long]
    exact nofun

theorem split_failsOnly (xs : List α) (size : Value) :
    FailsOnly (· ≠ .cancelled) (split xs size) := by
  have check : FailsOnly (· ≠ .cancelled) (checkSize size) := by
    refine (size.less_failsOnly _).bind fun small => ?_
    cases small with
    | false => exact .ok ()
    | true => exact .error (refusal_ne_cancelled size)
  have whole : FailsOnly (· ≠ .cancelled) (step size) := by
    unfold step
    split
    · exact .ok _
    · exact .error nofun
  exact check.bind fun _ => whole.bind fun n => .ok _

theorem delayText_failsOnly (delay : Value) : FailsOnly (· ≠ .cancelled) (delayText delay) := by
  fun_cases delayText delay
  · exact .ok _
  · exact .ok _
  · exact .error nofun
  · exact .error nofun

theorem gap_failsOnly (delay : Value) (index total : Nat) :
    FailsOnly (· ≠ .cancelled) (gap delay index total : Except Fault (List (Tick α))) := by
  unfold gap
  split
  · exact .ok []
  · refine (delay.greater_failsOnly _).bind fun positive => ?_
    split
    · exact (delayText_failsOnly delay).bind fun text => .ok _
    · exact .ok []

theorem spaced_fault (delay : Value) (total index : Nat) (bs : List (List α)) :
    (spaced delay total index bs).fault ≠ some .cancelled := by
  induction bs generalizing index with
  | nil => nofun
  | cons b bs ih =>
      have pause := gap_failsOnly (α := α) delay index total
      unfold spaced
      split
      · rename_i f failed
        intro same
        exact pause f failed (Option.some.inj same)
      · exact ih (index + 1)

theorem feed_fault (batches : Except Fault (List (List α))) (delay : Value)
    (made : FailsOnly (· ≠ .cancelled) batches) : (feed batches delay).fault ≠ some .cancelled := by
  cases batches with
  | error f => exact fun same => made f rfl (Option.some.inj same)
  | ok bs => exact spaced_fault delay bs.length 0 bs

theorem consumeTicks_steadfast {f : β → List α → Exchange β} (each : ∀ b items, (f b items).Steadfast)
    (ticks : List (Tick α)) (start : β) : (consumeTicks f start ticks).Steadfast :=
  consumeTicks_all (fun _ => trivial) (fun _ _ first rest => first.bind rest) ticks
    (fun _ _ _ _ steadfast => ⟨trivial, steadfast⟩) (fun b items _ => each b items) start

theorem Feed.consume_steadfast {f : β → List α → Exchange β}
    (each : ∀ b items, (f b items).Steadfast) {feed : Feed α} (fault : feed.fault ≠ some .cancelled)
    (start : β) : (feed.consume f start).Steadfast := by
  refine (consumeTicks_steadfast each feed.ticks start).bind fun b => ?_
  cases ended : feed.fault with
  | none => trivial
  | some g =>
      intro same
      exact fault (ended.trans (congrArg some same))

end Batch

namespace Account

theorem askBatch_steadfast (a : Account) (batch : List String) : (a.askBatch batch).Steadfast := by
  have asked : (Exchange.submit (a.question batch)).Steadfast :=
    .submit _ nofun nofun fun _ kept same => kept (congrArg _ same)
  refine asked.bind fun r => (Exchange.Keeps.lift (documentOf_failsOnly _ r)).bind fun v => ?_
  refine (Exchange.Keeps.lift (Availability.read_failsOnly a.provider batch v)).bind fun reading => ?_
  cases reading <;> trivial

theorem tryBatch_steadfast (a : Account) (results : ResultMap) (batch : List String) :
    (a.tryBatch results batch).Steadfast := by
  refine (a.askBatch_steadfast batch).attempt.bind fun found => ?_
  cases found <;> trivial

/-- Whatever is asked, a check is withdrawn only where the outcome of a request withdraws it. -/
theorem check_steadfast (a : Account) (input : Value) : (a.check input).Steadfast := by
  refine (Exchange.Keeps.lift (Hash.unique_failsOnly input)).bind fun hashes => ?_
  cases hashes with
  | nil => trivial
  | cons h hs =>
      have fault := Batch.feed_fault (Batch.split (h :: hs) (a.sizeFor (h :: hs).length)) a.batchDelay
        (Batch.split_failsOnly _ _)
      exact (Batch.Feed.consume_steadfast a.tryBatch_steadfast fault _).bind fun _ => trivial

end Account
end DebridCache
