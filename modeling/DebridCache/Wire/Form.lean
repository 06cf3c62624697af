import DebridCache.Wire.Escape

/-!
Named fields as a form: in the query of an address or as the body of a request.
-/

namespace DebridCache.Wire

abbrev Fields := List (String × Value)

/-- The text of one field value: truth values in lowercase, nothing for null. -/
def fieldText : Value → String
  | .bool true => "true"
  | .bool false => "false"
  | .null => ""
  | v => v.text

/-- A list gives its key once for every item. -/
def spread (field : String × Value) : List (String × String) :=
  match field.2 with
  | .arr items => items.map fun v => (field.1, fieldText v)
  | v => [(field.1, fieldText v)]

def formText (s : String) : List Char := s.toList.flatMap formChar

def formPair (pair : String × String) : List Char := formText pair.1 ++ '=' :: formText pair.2

def joinPairs : List (List Char) → List Char
  | [] => []
  | [p] => p
  | p :: ps => p ++ '&' :: joinPairs ps

def encodeFields (fields : Fields) : List Char :=
  joinPairs ((fields.flatMap spread).map formPair)

end DebridCache.Wire
