import StageRelay.RoutingTable

/-!
# Extensions

An extension is a named service with a routing table for its answers. Extensions
are registered under their names; an extension that is not active is known but
never queued.
-/

namespace StageRelay

inductive ServiceMethod where
  | get
  | post
  | put
  | patch
  | delete
  | head
deriving DecidableEq, Repr

instance : Inhabited ServiceMethod := ⟨.post⟩

namespace ServiceMethod

def name : ServiceMethod → String
  | .get => "GET"
  | .post => "POST"
  | .put => "PUT"
  | .patch => "PATCH"
  | .delete => "DELETE"
  | .head => "HEAD"

def names : List (String × ServiceMethod) :=
  [.get, .post, .put, .patch, .delete, .head].map fun m => (m.name, m)

/-- Whether a call sends the payload as its body. With the other methods the payload
stays where it is, and the service sees none of it. -/
def carriesBody : ServiceMethod → Bool
  | .post | .put | .patch => true
  | .get | .delete | .head => false

end ServiceMethod

structure Service where
  uri : String
  method : ServiceMethod
  /-- Headers sent with every call. -/
  headers : SortedMap String String
deriving DecidableEq, Inhabited

structure Extension where
  name : String
  active : Bool
  service : Service
  routing : RoutingTable
deriving DecidableEq, Inhabited

structure Registry where
  byName : SortedMap String Extension
deriving DecidableEq, Inhabited

namespace Registry

def empty : Registry := ⟨.empty⟩

/-- The registry with an extension under a name, which becomes the extension's own. So a
name that an extension had before is lost. -/
def insertAs (g : Registry) (name : String) (e : Extension) : Registry :=
  ⟨g.byName.insert name { e with name := name }⟩

/-- The registry with an extension under its own name, in place of one that had this
name before. -/
def insert (g : Registry) (e : Extension) : Registry := ⟨g.byName.insert e.name e⟩

/-- The registry of named extensions, each under the name that it is listed under. Of
several under one name the last one stays. -/
def ofEntries (entries : List (String × Extension)) : Registry :=
  entries.foldl (fun g e => g.insertAs e.1 e.2) empty

def get? (g : Registry) (name : String) : Option Extension := g.byName.get? name

def size (g : Registry) : Nat := g.byName.size

def isEmpty (g : Registry) : Bool := g.byName.isEmpty

def names (g : Registry) : List String := g.byName.keys

end Registry

end StageRelay
