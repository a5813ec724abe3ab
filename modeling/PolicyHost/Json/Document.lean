import PolicyHost.Value

namespace PolicyHost

/-!
# JSON documents

A document is what a JSON text says, members of objects in the order they
were written and repeated names included.  Its value is the host value it
stands for: there a repeated name counts once, with its last value.
-/

/-- What a JSON text says. -/
inductive Document where
  | null
  | bool (b : Bool)
  | int (n : Int)
  | float (x : Double)
  | text (s : String)
  | array (items : List Document)
  | object (members : List (String × Document))
deriving Inhabited

namespace Document

/-- Store a member.  A name that is present keeps its place. -/
def putMember {κ α : Type} [DecidableEq κ] : List (κ × α) → κ → α → List (κ × α)
  | [], name, value => [(name, value)]
  | m :: rest, name, value =>
    if m.1 == name then (name, value) :: rest else m :: putMember rest name value

/-- Members with each name once: in the place of its first occurrence and
with the value of its last. -/
def settle {α : Type} (members : List (String × α)) : List (String × α) :=
  members.foldl (fun stored m => putMember stored m.1 m.2) []

mutual

def value : Document → Value
  | .null => .null
  | .bool b => .bool b
  | .int n => .int n
  | .float x => .float x
  | .text s => .text s
  | .array items => .list (values items)
  | .object members => Value.object (settle (memberValues members))

def values : List Document → List Value
  | [] => []
  | d :: ds => value d :: values ds

def memberValues : List (String × Document) → List (String × Value)
  | [] => []
  | (name, d) :: ms => (name, value d) :: memberValues ms

end

end Document
end PolicyHost
