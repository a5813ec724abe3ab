import PolicyHost.Value.Literal

namespace PolicyHost

/-!
# Schemas

A schema says which values are acceptable in a place: as the input of a
decision, as its result, as a configuration, as the body of a response.  Two
readings check values against schemas.  The strict one reads documents and
converts nothing; the lenient one reads values a caller hands over.

Alternatives are kept flat: a choice has no choice among its members, and
whether null is allowed is a flag of its own.
-/

/-- What a model does with fields it does not declare. -/
inductive Extras where
  | ignore
  | forbid
  | keep
deriving DecidableEq, Repr

/-- A condition on values that already have the right type, or a last change
to them. -/
inductive Rule where
  /-- At least one character. -/
  | nonEmpty
  /-- An integer not below the bound. -/
  | atLeast (bound : Int)
  /-- The name of a log level, in any case. -/
  | levelName
  /-- The path of an archive member, rooted. -/
  | memberPath
deriving DecidableEq, Repr

inductive Schema where
  | any
  | bool
  | int
  | float
  | text
  | bytes
  | null
  /-- A unique identifier in one of its text forms. -/
  | identifier
  /-- A list whose elements are not described. -/
  | anyList
  /-- A mapping whose entries are not described. -/
  | anyMapping
  | list (item : Schema)
  | set (item : Schema)
  | mapping (key value : Schema)
  /-- A tuple with these elements. -/
  | tuple (items : List Schema)
  /-- A tuple of any length. -/
  | sequence (item : Schema)
  /-- One of these constants. -/
  | literal (choices : List Value)
  /-- One of the members, or null if that is allowed.  `barred` tells how the
  choice is spelled in messages. -/
  | choice (barred orNull : Bool) (members : List Schema)
  /-- A record with these fields, each with its default if it has one. -/
  | model (name : String) (fields : List (String × Schema × Option Value)) (extras : Extras)
  | refined (rule : Rule) (base : Schema)
deriving Inhabited

namespace Schema

mutual

/-- Whether two schemas are the same type.  Every model is a type of its
own. -/
def same : Schema → Schema → Bool
  | .any, .any | .bool, .bool | .int, .int | .float, .float | .text, .text | .bytes, .bytes
  | .null, .null | .identifier, .identifier | .anyList, .anyList | .anyMapping, .anyMapping => true
  | .list s, .list t | .set s, .set t | .sequence s, .sequence t => same s t
  | .mapping k v, .mapping l w => same k l && same v w
  | .tuple ss, .tuple ts => sameAll ss ts
  | .literal xs, .literal ys => Literal.ofValues xs == Literal.ofValues ys
  | .choice _ n ss, .choice _ m ts => n == m && sameAll ss ts
  | _, _ => false

/-- Whether two lists of schemas agree member by member. -/
def sameAll : List Schema → List Schema → Bool
  | [], [] => true
  | s :: ss, t :: ts => same s t && sameAll ss ts
  | _, _ => false

end

/-- The members a schema contributes to a choice it is part of, and whether
it allows null. -/
def parts : Schema → Bool × List Schema
  | .null => (true, [])
  | .choice _ orNull members => (orNull, members)
  | s => (false, [s])

/-- A choice spelled in a given way.  One member without null is no choice. -/
def choose (barred : Bool) (alternatives : List Schema) : Schema :=
  let members := (alternatives.flatMap fun s => s.parts.2).foldl
    (fun kept s => if kept.any (same s) then kept else kept ++ [s]) []
  let orNull := alternatives.any fun s => s.parts.1
  match orNull, members with
  | true, [] => .null
  | false, [s] => s
  | _, _ => .choice barred orNull members

def union (alternatives : List Schema) : Schema :=
  choose false alternatives

/-- Whether a schema is spelled by a name rather than with bars when it is
made optional. -/
def namedWhenOptional : Schema → Bool
  | .any | .literal _ => true
  | .choice barred _ _ => !barred
  | _ => false

def optional (s : Schema) : Schema :=
  choose (!s.namedWhenOptional) [s, .null]

mutual

/-- How a schema is spelled inside another one that is spelled out. -/
def spelling : Schema → String
  | .any => "typing.Any"
  | .bool => "bool"
  | .int => "int"
  | .float => "float"
  | .text => "str"
  | .bytes => "bytes"
  | .null => "None"
  | .identifier => "UUID"
  | .anyList => "list"
  | .anyMapping => "dict"
  | .list s => "list[" ++ spelling s ++ "]"
  | .set s => "set[" ++ spelling s ++ "]"
  | .mapping k v => "dict[" ++ spelling k ++ ", " ++ spelling v ++ "]"
  | .tuple items => "tuple[" ++ ", ".intercalate (spellings items) ++ "]"
  | .sequence s => "tuple[" ++ spelling s ++ ", ...]"
  | .literal choices => "typing.Literal[" ++ ", ".intercalate (Literal.ofValues choices) ++ "]"
  | .choice true orNull members =>
    " | ".intercalate (spellings members ++ if orNull then ["None"] else [])
  | .choice false orNull members =>
    if orNull && members.length == 1 then
      "typing.Optional[" ++ ", ".intercalate (spellings members) ++ "]"
    else
      "typing.Union[" ++
        ", ".intercalate (spellings members ++ if orNull then ["NoneType"] else []) ++ "]"
  | .model name _ _ => name
  | .refined _ s => spelling s

def spellings : List Schema → List String
  | [] => []
  | s :: ss => spelling s :: spellings ss

end

/-- The short name of a schema in messages.  A barred choice has none and is
spelled out. -/
def name : Schema → String
  | .any => "Any"
  | .null => "NoneType"
  | .anyList | .list _ => "list"
  | .set _ => "set"
  | .anyMapping | .mapping _ _ => "dict"
  | .tuple _ | .sequence _ => "tuple"
  | .literal _ => "Literal"
  | .choice false orNull members => if orNull && members.length == 1 then "Optional" else "Union"
  | .refined _ s => name s
  | s => spelling s

mutual

/-- The full name of a schema as the parameter of a generic record. -/
def fullName : Schema → String
  | .any => "Any"
  | .null => "NoneType"
  | .list s => "list[" ++ fullName s ++ "]"
  | .set s => "set[" ++ fullName s ++ "]"
  | .mapping k v => "dict[" ++ fullName k ++ ", " ++ fullName v ++ "]"
  | .tuple items => "tuple[" ++ ", ".intercalate (fullNames items) ++ "]"
  | .sequence s => "tuple[" ++ fullName s ++ ", ...]"
  | .literal choices => "Literal[" ++ ", ".intercalate (Literal.ofValues choices) ++ "]"
  | .choice _ orNull members =>
    "Union[" ++ ", ".intercalate (fullNames members ++ if orNull then ["NoneType"] else []) ++ "]"
  | s => spelling s

def fullNames : List Schema → List String
  | [] => []
  | s :: ss => fullName s :: fullNames ss

end

mutual

def label : Schema → String
  | .any => "any"
  | .null => "none"
  | .identifier => "uuid"
  | .anyList => "list[any]"
  | .anyMapping => "dict[any,any]"
  | .list s => "list[" ++ label s ++ "]"
  | .set s => "set[" ++ label s ++ "]"
  | .mapping k v => "dict[" ++ label k ++ "," ++ label v ++ "]"
  | .tuple items => "tuple[" ++ ", ".intercalate (labels items) ++ "]"
  | .sequence s => "tuple[" ++ label s ++ ", ...]"
  | .literal choices => "literal[" ++ ",".intercalate (Literal.ofValues choices) ++ "]"
  | .choice _ orNull members =>
    let inner := match members with
      | [s] => label s
      | ss => "union[" ++ ",".intercalate (labels ss) ++ "]"
    if orNull then "nullable[" ++ inner ++ "]" else inner
  | .refined _ s => label s
  | s => spelling s

def labels : List Schema → List String
  | [] => []
  | s :: ss => label s :: labels ss

end

end Schema
end PolicyHost
