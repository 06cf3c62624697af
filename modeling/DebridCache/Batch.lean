import DebridCache.Exchange
import DebridCache.Value.Text

/-!
Batches of a list, and a feed of them with a pause before every batch but the first. The consumer is
done with one batch before the pause for the next begins.
-/

namespace DebridCache.Batch

variable {α β : Type}

/-- Consecutive pieces of at most `size` items, all but the last of just that many. -/
def chunks (size : Nat) (xs : List α) : List (List α) :=
  if xs = [] ∨ size = 0 then []
  else xs.take size :: chunks size (xs.drop size)
termination_by xs.length
decreasing_by
  simp only [List.length_drop]
  have : xs.length ≠ 0 := by simp_all
  omega

/-- The fault of a size below one; the size stands in its words, if it can be written. -/
def refusal (size : Value) : Fault :=
  match size.spell with
  | .ok text => .batchSize text
  | .error f => f

def checkSize (size : Value) : Except Fault Unit := do
  if ← size.less (.int 1) then throw (refusal size)

def step (size : Value) : Except Fault Nat :=
  match size.whole? with
  | some n => .ok n.toNat
  | none => .error (.wrongKind ("'" ++ size.kindName ++ "' object cannot be interpreted as an integer"))

def split (xs : List α) (size : Value) : Except Fault (List (List α)) := do
  checkSize size
  return chunks (← step size) xs

/-- What can be cut into pieces: lists and text, and an empty object, which has no piece to cut. -/
def pieces : Value → Except Fault (List Value)
  | .obj (_ :: _) => .error (.wrongKind "unhashable type: 'slice'")
  | .obj [] => .ok []
  | .arr items => .ok items
  | .str s => (Value.str s).elements
  | v => .error v.noLength

def splitValue (items size : Value) : Except Fault (List (List Value)) := do
  checkSize size
  let xs ← pieces items
  return chunks (← step size) xs

inductive Tick (α : Type) where
  | batch (items : List α)
  | pause (delay : Value) (entry : Entry)
  deriving Repr

/-- All that a feed does, and the fault that ends it if one does. -/
structure Feed (α : Type) where
  ticks : List (Tick α)
  fault : Option Fault
  deriving Repr

def delayText : Value → Except Fault String
  | .float x => .ok (Numerals.text.renderFixed 2 x)
  | v =>
    match v.whole? with
    | some n =>
      match Binary64.ofInt? n with
      | some x => .ok (Numerals.text.renderFixed 2 x)
      | none => .error .tooBig
    | none => .error (.wrongKind ("unsupported format string passed to " ++ v.kindName ++ ".__format__"))

/-- The pause before the batch at `index`: none before the first, nor for a delay that is not
positive. -/
def gap (delay : Value) (index total : Nat) : Except Fault (List (Tick α)) :=
  if index = 0 then .ok []
  else do
    if ← delay.greater (.int 0) then
      let text ← delayText delay
      return [.pause delay ⟨.debug, "Throttling " ++ text ++ "s before batch " ++
        toString (index + 1) ++ "/" ++ toString total, none⟩]
    else return []

/-- The batches from `index` on, with their pauses. -/
def spaced (delay : Value) (total : Nat) : Nat → List (List α) → Feed α
  | _, [] => ⟨[], none⟩
  | index, b :: bs =>
    match gap delay index total with
    | .error f => ⟨[], some f⟩
    | .ok before =>
      let rest := spaced delay total (index + 1) bs
      ⟨before ++ .batch b :: rest.ticks, rest.fault⟩

/-- The feed of some batches; a fault in making them ends it before it does anything. -/
def feed (batches : Except Fault (List (List α))) (delay : Value) : Feed α :=
  match batches with
  | .error f => ⟨[], some f⟩
  | .ok bs => spaced delay bs.length 0 bs

def ticksThrough : Nat → List (Tick α) → Option (List (Tick α))
  | 0, _ => some []
  | _ + 1, [] => none
  | n + 1, .pause d e :: rest => (ticksThrough (n + 1) rest).map (.pause d e :: ·)
  | n + 1, .batch b :: rest => (ticksThrough n rest).map (.batch b :: ·)

/-- A feed whose consumer leaves at the `n`-th batch; one that leaves before the first sees nothing of
it, not even its fault. -/
def Feed.stopAt (n : Nat) (f : Feed α) : Feed α :=
  match ticksThrough n f.ticks with
  | some ticks => ⟨ticks, none⟩
  | none => f

def consumeTicks (consume : β → List α → Exchange β) : β → List (Tick α) → Exchange β
  | b, [] => .done b
  | b, .pause d e :: rest => .note e (.sleep d (consumeTicks consume b rest))
  | b, .batch items :: rest => (consume b items).bind fun b => consumeTicks consume b rest

def Feed.consume (f : Feed α) (consume : β → List α → Exchange β) (start : β) : Exchange β :=
  (consumeTicks consume start f.ticks).bind fun b =>
    match f.fault with
    | some fault => .fail fault
    | none => .done b

end DebridCache.Batch
