import DebridCache.Fault
import DebridCache.Number.Binary64
import DebridCache.Table

/-!
JSON values as providers send them: whole numbers without bound, floats apart from them, and objects
in the order of their keys.
-/

namespace DebridCache

inductive Value where
  | null
  | bool (b : Bool)
  | int (n : Int)
  | float (x : Binary64)
  | str (s : String)
  | arr (items : List Value)
  | obj (members : List (String × Value))
  deriving Repr, Inhabited

namespace Value

def kindName : Value → String
  | .null => "NoneType"
  | .bool _ => "bool"
  | .int _ => "int"
  | .float _ => "float"
  | .str _ => "str"
  | .arr _ => "list"
  | .obj _ => "dict"

/-- Absent, false, zero and empty values count as false; not-a-number counts as true. -/
def truthy : Value → Bool
  | .null => false
  | .bool b => b
  | .int n => n ≠ 0
  | .float x => !x.isZero
  | .str s => s ≠ ""
  | .arr items => !items.isEmpty
  | .obj members => !members.isEmpty

/-- The first of two values that counts as true, else the second. -/
def orElse (a b : Value) : Value := if a.truthy then a else b

/-- Where a number stands; true and false stand at one and zero. -/
def place? : Value → Option Place
  | .bool b => some (Binary64.placeOfInt (if b then 1 else 0))
  | .int n => some (Binary64.placeOfInt n)
  | .float x => some x.place
  | _ => none

def whole? : Value → Option Int
  | .bool b => some (if b then 1 else 0)
  | .int n => some n
  | _ => none

def ofString? : Option String → Value
  | some s => .str s
  | none => .null

mutual

/-- Equality of values: numbers by where they stand, objects whatever the order of their keys. -/
def agree : Value → Value → Bool
  | .null, .null => true
  | .str a, .str b => a == b
  | .arr xs, .arr ys => agreeItems xs ys
  | .obj ms, .obj ns => ms.length == ns.length && agreeMembers ms ns
  | a, b =>
    match a.place?, b.place? with
    | some p, some q => p.eq q
    | _, _ => false

def agreeItems : List Value → List Value → Bool
  | [], [] => true
  | v :: vs, w :: ws => v.agree w && agreeItems vs ws
  | _, _ => false

def agreeMembers : List (String × Value) → List (String × Value) → Bool
  | [], _ => true
  | (k, v) :: rest, ns =>
    (match ns.lookup k with
      | some w => v.agree w
      | none => false) && agreeMembers rest ns

end

def unordered (mark : String) (a b : Value) : Fault :=
  .wrongKind ("'" ++ mark ++ "' not supported between instances of '" ++ a.kindName ++ "' and '" ++
    b.kindName ++ "'")

def less (a b : Value) : Except Fault Bool :=
  match a.place?, b.place? with
  | some p, some q => .ok (p.lt q)
  | _, _ => .error (unordered "<" a b)

def greater (a b : Value) : Except Fault Bool :=
  match a.place?, b.place? with
  | some p, some q => .ok (q.lt p)
  | _, _ => .error (unordered ">" a b)

/-- The first of two numbers, unless the second is less. -/
def least (a b : Value) : Except Fault Value := do
  if ← b.less a then return b else return a

/-- The first of two numbers, unless the second is greater. -/
def greatest (a b : Value) : Except Fault Value := do
  if ← b.greater a then return b else return a

/-- The member of an object, null where it has none; other kinds have no members. -/
def member (key : String) : Value → Except Fault Value
  | .obj members => .ok ((members.lookup key).getD .null)
  | v => .error (.noMember v.kindName "get")

/-- The member of an object, null where there is none or where there is no object. -/
def memberOrNull (key : String) : Value → Value
  | .obj members => (members.lookup key).getD .null
  | _ => .null

def notIterable (v : Value) : Fault := .wrongKind ("'" ++ v.kindName ++ "' object is not iterable")

/-- What going through a value one by one yields: items, characters or keys. -/
def elements : Value → Except Fault (List Value)
  | .arr items => .ok items
  | .str s => .ok (s.toList.map fun c => .str (String.singleton c))
  | .obj members => .ok (members.map fun m => .str m.1)
  | v => .error v.notIterable

def first : Value → Except Fault Value
  | .arr (v :: _) => .ok v
  | .str s =>
    match s.toList with
    | c :: _ => .ok (.str (String.singleton c))
    | [] => .error .noKey
  | .arr [] | .obj _ => .error .noKey
  | v => .error (.wrongKind ("'" ++ v.kindName ++ "' object is not subscriptable"))

def noLength (v : Value) : Fault := .wrongKind ("object of type '" ++ v.kindName ++ "' has no len()")

def size : Value → Except Fault Nat
  | .arr items => .ok items.length
  | .str s => .ok s.length
  | .obj members => .ok members.length
  | v => .error v.noLength

/-- The members of an object as written: the last value of a key counts, at the key's first place. -/
def ofMembers (members : List (String × Value)) : Value :=
  .obj (members.foldl (fun done m => Table.put m.1 m.2 done) [])

end Value
end DebridCache
