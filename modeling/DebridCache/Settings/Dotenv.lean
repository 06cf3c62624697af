import DebridCache.Table
import DebridCache.Text.Blank

/-!
Files of variables, one binding a line: a name, perhaps after the word export, an equals sign and a
value, which quotes may carry over lines. A line that is no binding is passed over.
-/

namespace DebridCache.Dotenv

structure Binding where
  name : List Char
  value : Option (List Char)
  deriving DecidableEq, Repr, Inhabited

def isLineEnd (c : Char) : Bool := c = '\n' || c = '\r'

def isInline (c : Char) : Bool := Text.isBlank c && !isLineEnd c

def skipInline (cs : List Char) : List Char := cs.dropWhile isInline

def unifyLineEnds : List Char → List Char
  | '\r' :: '\n' :: cs => '\n' :: unifyLineEnds cs
  | '\r' :: cs => '\n' :: unifyLineEnds cs
  | c :: cs => c :: unifyLineEnds cs
  | [] => []

def nextLine : List Char → List Char
  | [] => []
  | c :: cs => if isLineEnd c then cs else nextLine cs

def skipExport (cs : List Char) : List Char :=
  match cs with
  | 'e' :: 'x' :: 'p' :: 'o' :: 'r' :: 't' :: c :: rest =>
    if isInline c then skipInline rest else cs
  | _ => cs

def isNameChar (c : Char) : Bool := c ≠ '=' && c ≠ '#' && !Text.isBlank c

/-- A name at the front, perhaps in single quotes. A comment has none, which is no failure. -/
def name? : List Char → Option (Option (List Char) × List Char)
  | cs@('#' :: _) => some (none, cs)
  | '\'' :: cs =>
    match cs.span (· ≠ '\'') with
    | ([], _) => none
    | (name, '\'' :: rest) => some (some name, rest)
    | _ => none
  | cs =>
    match cs.span isNameChar with
    | ([], _) => none
    | (name, rest) => some (some name, rest)

def singleEscape? : Char → Option Char
  | '\\' => some '\\'
  | '\'' => some '\''
  | _ => none

def doubleEscape? : Char → Option Char
  | '\\' => some '\\'
  | '\'' => some '\''
  | '"' => some '"'
  | 'a' => some '\x07'
  | 'b' => some '\x08'
  | 'f' => some '\x0c'
  | 'n' => some '\n'
  | 'r' => some '\r'
  | 't' => some '\t'
  | 'v' => some '\x0b'
  | _ => none

/-- What a backslash and the character after it stand for; where they are no escape both stay. -/
def escaped (escape? : Char → Option Char) (c : Char) : List Char :=
  match escape? c with
  | some e => [e]
  | none => ['\\', c]

/-- The text up to the closing quote, and what follows the quote. A backslash always belongs to the
character after it, so a quote after one closes nothing, whether another quote comes or not. -/
def quoted? (quote : Char) (escape? : Char → Option Char) :
    List Char → Option (List Char × List Char)
  | [] => none
  | '\\' :: c :: cs =>
    (quoted? quote escape? cs).map fun (body, rest) => (escaped escape? c ++ body, rest)
  | c :: cs =>
    if c = quote then some ([], cs)
    else (quoted? quote escape? cs).map fun (body, rest) => (c :: body, rest)

def beforeComment : List Char → List Char
  | [] => []
  | c :: cs =>
    match cs with
    | '#' :: _ => if Text.isBlank c then [] else c :: beforeComment cs
    | _ => c :: beforeComment cs

def bareValue (line : List Char) : List Char := Text.strip (beforeComment line)

/-- A value after its equals sign, and what follows it. The blanks before a value count as its line's,
so a line with nothing but a comment there has an empty value. -/
def value? (cs : List Char) : Option (List Char × List Char) :=
  match skipInline cs with
  | '\'' :: body => quoted? '\'' singleEscape? body
  | '"' :: body => quoted? '"' doubleEscape? body
  | _ =>
    let (line, rest) := cs.span fun c => !isLineEnd c
    some (bareValue line, rest)

/-- What follows a comment and the end of the line; anything else there spoils the binding. -/
def lineEnd? (cs : List Char) : Option (List Char) :=
  let rest := skipInline cs
  let rest :=
    match rest with
    | '#' :: _ => rest.dropWhile fun c => !isLineEnd c
    | _ => rest
  match rest with
  | [] => some []
  | c :: rest => if isLineEnd c then some rest else none

def binding (cs : List Char) : Option Binding × List Char :=
  match name? (skipExport cs) with
  | none => (none, nextLine (skipExport cs))
  | some (name, rest) =>
    let rest := skipInline rest
    let valued : Option (Option (List Char) × List Char) :=
      match rest with
      | '=' :: rest => (value? rest).map fun (v, rest) => (some v, rest)
      | _ => some (none, rest)
    match valued with
    | none => (none, nextLine rest)
    | some (value, rest) =>
      match lineEnd? rest with
      | none => (none, nextLine rest)
      | some next => (name.map fun n => ⟨n, value⟩, next)

/-- All bindings in order; every step passes over a character at least, so `fuel` suffices. -/
def bindingsFrom : Nat → List Char → List Binding
  | 0, _ => []
  | fuel + 1, cs =>
    match cs.dropWhile Text.isBlank with
    | [] => []
    | cs =>
      let (b, rest) := binding cs
      b.toList ++ bindingsFrom fuel rest

def bindings (text : String) : List Binding :=
  let cs := unifyLineEnds text.toList
  bindingsFrom (cs.length + 1) cs

def referenceDefault? : List Char → Option (List Char × List Char)
  | ':' :: '-' :: cs =>
    match cs.span (· ≠ '\x7d') with
    | (default, '\x7d' :: rest) => some (default, rest)
    | _ => none
  | '\x7d' :: cs => some ([], cs)
  | _ => none

def reference? (cs : List Char) : Option (List Char × List Char × List Char) :=
  let (name, rest) := cs.span fun c => c ≠ '\x7d' && c ≠ ':'
  (referenceDefault? rest).map fun (default, rest) => (name, default, rest)

def expand (lookup : String → Option String) : Nat → List Char → List Char
  | 0, cs => cs
  | fuel + 1, cs =>
    match cs with
    | [] => []
    | '$' :: '\x7b' :: rest =>
      match reference? rest with
      | some (name, default, rest) =>
        (match lookup (String.ofList name) with
          | some v => v.toList
          | none => default) ++ expand lookup fuel rest
      | none => '$' :: expand lookup fuel ('\x7b' :: rest)
    | c :: rest => c :: expand lookup fuel rest

/-- One more variable: its references see the variables of the file before those around it, and one
without a value is known but empty. -/
def addBinding (env : Table String) (done : Table (Option String)) (b : Binding) :
    Table (Option String) :=
  let lookup (name : String) : Option String :=
    match done.lookup name with
    | some v => some (v.getD "")
    | none => env.lookup name
  Table.put (String.ofList b.name)
    (b.value.map fun cs => String.ofList (expand lookup cs.length cs)) done

def read (env : Table String) (text : String) : Table (Option String) :=
  (bindings text).foldl (addBinding env) []

end DebridCache.Dotenv
