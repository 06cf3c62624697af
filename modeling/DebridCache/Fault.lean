/-!
Why an operation fails. Callers tell three kinds apart: a withdrawn call, which nothing may hide; a
failure of the transport; and everything else.
-/

namespace DebridCache

inductive Problem where
  | boolText
  | boolKind
  | intText
  | intFraction
  | intRange
  | intKind
  | notFinite
  | floatText
  | floatKind
  | textKind
  | tooSmall
  | tooLarge
  deriving DecidableEq, Repr, Inhabited

inductive Fault where
  /-- A provider did not do what the user asked; the status is absent when no response came. -/
  | action (provider : String) (status : Option Int) (detail : String)
  /-- The exchange with the server broke down; `kind` says how. -/
  | transport (kind message : String)
  /-- A response, from some address, whose status is not a success. -/
  | rejected (status : Nat) (url : String)
  /-- The caller withdrew. -/
  | cancelled
  | badAddress (reason : String)
  /-- A header's value holds a character that headers cannot carry. -/
  | badHeader (value : String)
  | clientClosed
  | brokenRuntime (message : String)
  | brokenValue (message : String)
  | brokenKey (message : String)
  | brokenSystem (message : String)
  /-- A body that is no JSON document. -/
  | unreadable (body : List UInt8)
  /-- A body whose values stand in one another deeper than the stack goes. -/
  | tooDeep (body : List UInt8)
  /-- Values of a kind have no such member or method. -/
  | noMember (kind member : String)
  /-- A value is of a kind that the operation does not take. -/
  | wrongKind (message : String)
  | noKey
  | tooBig
  /-- A whole number has too many digits to be written. -/
  | longNumber
  /-- Batches of this size cannot be made. -/
  | batchSize (size : String)
  | unknownName (message : String)
  | invalidSettings (problems : List (String × Problem))
  | immutable
  deriving DecidableEq, Repr, Inhabited

namespace Fault

/-- Whether best-effort work may go on after it. -/
def isRecoverable (f : Fault) : Bool := f ≠ .cancelled

def isAction : Fault → Bool
  | .action .. => true
  | _ => false

def actionText (provider : String) (status : Option Int) (detail : String) : String :=
  provider ++ " API error: " ++ (status.map toString).getD "no response" ++ " - " ++ detail

/-- The words of a fault. Some are made by others of what the fault holds, and are not told here. -/
def message? : Fault → Option String
  | .action provider status detail => some (actionText provider status detail)
  | .transport _ message | .badAddress message | .wrongKind message | .unknownName message
  | .brokenRuntime message | .brokenValue message | .brokenKey message | .brokenSystem message =>
    some message
  | .clientClosed => some "Cannot send a request, as the client has been closed."
  | .noMember kind member => some ("'" ++ kind ++ "' object has no attribute '" ++ member ++ "'")
  | .noKey => some "0"
  | .tooBig => some "int too large to convert to float"
  | .batchSize size => some ("Batch size must be positive, got " ++ size)
  | _ => none

end Fault

inductive Frozen where
  | status
  | pair
  | config
  deriving DecidableEq, Repr

/-- Assigning to any attribute of a frozen value is refused. -/
def Frozen.assign (_ : Frozen) (_attribute : String) : Except Fault Unit := .error .immutable

end DebridCache
