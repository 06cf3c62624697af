import DebridCache.Text.Blank
import DebridCache.Text.Lowercase
import DebridCache.Value.Text

/-!
Info hashes of torrents. They are compared and asked for in normal form, so spellings that differ in
case or in surrounding blanks name one torrent.
-/

namespace DebridCache.Hash

def normalize (hash : String) : String := String.ofList (Text.lower (Text.strip hash.toList))

def normalForm : Value → Except Fault String
  | .str s => .ok (normalize s)
  | v => .error (.noMember v.kindName "strip")

def normalForms (items : List Value) : Except Fault (List String) :=
  (items.filter Value.truthy).mapM normalForm

/-- The hashes that some input asks for, in normal form, each at its first place. -/
def unique (input : Value) : Except Fault (List String) :=
  if input.truthy then do
    let forms ← normalForms (← input.elements)
    return forms.eraseDups
  else .ok []

def magnetScheme : String := "magnet:"

def magnet (hash : Value) : String := magnetScheme ++ "?xt=urn:btih:" ++ hash.text

/-- The link itself if it is one already, else the magnet link of a bare hash. -/
def asMagnet (link : Value) : Except Fault String :=
  match link with
  | .str s => .ok (if s.startsWith magnetScheme then s else magnet link)
  | _ => .error (.noMember link.kindName "startswith")

end DebridCache.Hash
