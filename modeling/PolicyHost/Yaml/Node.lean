import PolicyHost.Yaml.Layout
import PolicyHost.Yaml.Tag

namespace PolicyHost
namespace Yaml

/-!
# Nodes of YAML documents

Tokens are put together to nodes by descent.  A node may be given a name, and
later references to that name stand for the same node, so a document is a
tree in which some branches are shared.  Only a reference to a collection
from inside itself has no tree, and is kept as a node of its own kind.
-/

inductive Node where
  | scalar (tag : Tag) (text : HostText)
  | sequence (tag : Tag) (items : List Node)
  | mapping (tag : Tag) (entries : List (Node × Node))
  /-- A reference to a collection around it. -/
  | inside
deriving Inhabited

namespace Node

/-- The empty scalar, which stands where nothing is written. -/
def empty : Node := scalar .null (.whole "")

/-- Tokens that are left, with the names given so far.  The name of a
collection that is not complete has no node yet.  Each collection around a
node takes a place on the stack of the reader. -/
structure Reading where
  tokens : List Token
  room : Nat
  anchors : List (String × Option Node) := []
  handles : List (String × String)

/-- A step of reading. -/
abbrev Reader := StateT Reading (Except Failure)

def fail {α : Type} : Reader α := throw .malformed

/-- Read what is in a collection. -/
def within {α : Type} (reader : Reader α) : Reader α := do
  match (← get).room with
  | 0 => throw .exhausted
  | room + 1 =>
    modify fun r => { r with room }
    let found ← reader
    modify fun r => { r with room := room + 1 }
    return found

def peek : Reader (Option Token) := do
  match (← get).tokens with
  | [] => return none
  | .broken failure :: _ => throw failure
  | token :: _ => return some token

/-- Move past the next token. -/
def advance : Reader Unit := modify fun r => { r with tokens := r.tokens.tail }

/-- Whether the next token is one of some. -/
def sees (tokens : List (Option Token)) : Reader Bool := return tokens.contains (← peek)

/-- Move past a token if it is the next one. -/
def accept (token : Token) : Reader Bool := do
  if (← peek) == some token then
    advance
    return true
  else return false

/-- Move past a token, which has to be the next one. -/
def expect (token : Token) : Reader Unit := do
  if !(← accept token) then fail

def name (anchor : Option String) (node : Option Node) : Reader Unit :=
  match anchor with
  | none => return ()
  | some a => modify fun r => { r with anchors := (a, node) :: r.anchors }

/-- The address a tag stands for. -/
def addressOf (handle : Option String) (suffix : String) : Reader String := do
  match handle with
  | none => return suffix
  | some h =>
    match (← get).handles.find? fun e => e.1 == h with
    | some (_, meaning) => return meaning ++ suffix
    | none => fail

/-- The name and the tag before a node, in either order. -/
def properties : Reader (Option String × Option String) := do
  match ← peek with
  | some (.anchor a) =>
    advance
    match ← peek with
    | some (.tag handle suffix) =>
      advance
      return (some a, some (← addressOf handle suffix))
    | _ => return (some a, none)
  | some (.tag handle suffix) =>
    advance
    match ← peek with
    | some (.anchor a) =>
      advance
      return (some a, some (← addressOf handle suffix))
    | _ => return (none, some (← addressOf handle suffix))
  | _ => return (none, none)

/-- The type of a collection, which has one of its own unless a tag is
given. -/
def collectionTag (own : Tag) : Option String → Tag
  | none | some "!" => own
  | some address => Tag.ofAddress address

/-- The type of a scalar.  The tag `!` makes it as good as plain. -/
def scalarTag (tag : Option String) (text : HostText) (plain : Bool) : Tag :=
  match tag with
  | none => if plain then Tag.ofSpelling text else .text
  | some "!" => Tag.ofSpelling text
  | some address => Tag.ofAddress address

mutual

/-- Read a node.  In block context it may be a block collection, and under a
key also a sequence that is not indented. -/
def read : Nat → Bool → Bool → Reader Node
  | 0, _, _ => fail
  | budget + 1, block, unindented => do
    match ← peek with
    | some (.alias a) =>
      advance
      match (← get).anchors.find? fun e => e.1 == a with
      | some (_, some node) => return node
      | some (_, none) => return .inside
      | none => fail
    | _ =>
      let (anchor, tag) ← properties
      match anchor with
      | some a => if (← get).anchors.any fun e => e.1 == a then fail
      | none => pure ()
      match ← peek with
      | some (.scalar text plain) =>
        advance
        let node := scalar (scalarTag tag text plain) text
        name anchor (some node)
        return node
      | token =>
        let sequenceFrom (items : Reader (List Node)) : Reader Node := do
          name anchor none
          let node := sequence (collectionTag .sequence tag) (← within items)
          name anchor (some node)
          return node
        let mappingFrom (entries : Reader (List (Node × Node))) : Reader Node := do
          name anchor none
          let node := mapping (collectionTag .mapping tag) (← within entries)
          name anchor (some node)
          return node
        if token = some .dash && unindented then sequenceFrom (readUnindented budget)
        else if token = some .openSequence then do
          advance
          sequenceFrom (readFlowSequence budget true)
        else if token = some .openMapping then do
          advance
          mappingFrom (readFlowMapping budget true)
        else if token = some .blockSequence && block then do
          advance
          sequenceFrom (readBlockSequence budget)
        else if token = some .blockMapping && block then do
          advance
          mappingFrom (readBlockMapping budget)
        else if anchor.isSome || tag.isSome then
          let node := scalar (scalarTag tag (.whole "") true) (.whole "")
          name anchor (some node)
          return node
        else fail

/-- Read a node, or nothing if one of some tokens comes next. -/
def readUnless : Nat → Bool → Bool → List Token → Reader Node
  | 0, _, _, _ => fail
  | budget + 1, block, unindented, stops => do
    match ← peek with
    | some token => if stops.contains token then return empty else read budget block unindented
    | none => fail

def readBlockSequence : Nat → Reader (List Node)
  | 0 => fail
  | budget + 1 => do
    if ← accept .dash then
      let item ← readUnless budget true false [.dash, .blockEnd]
      return item :: (← readBlockSequence budget)
    else
      expect .blockEnd
      return []

/-- Read the elements of a sequence that is not indented. -/
def readUnindented : Nat → Reader (List Node)
  | 0 => fail
  | budget + 1 => do
    if ← accept .dash then
      let item ← readUnless budget true false [.dash, .key, .value, .blockEnd]
      return item :: (← readUnindented budget)
    else return []

def readBlockMapping : Nat → Reader (List (Node × Node))
  | 0 => fail
  | budget + 1 => do
    if ← accept .key then
      let stops : List Token := [.key, .value, .blockEnd]
      let key ← readUnless budget true true stops
      let value ←
        if ← accept .value then readUnless budget true true stops else pure empty
      return (key, value) :: (← readBlockMapping budget)
    else
      expect .blockEnd
      return []

/-- Read the elements of a flow sequence.  An element may be a mapping of one
entry without its braces. -/
def readFlowSequence : Nat → Bool → Reader (List Node)
  | 0, _ => fail
  | budget + 1, first => do
    if ← accept .closeSequence then return []
    else
      if !first then expect .comma
      if ← accept .closeSequence then return []
      else if ← accept .key then
        let entry ← within do
          let key ← readUnless budget false false [.value, .comma, .closeSequence]
          let value ←
            if ← accept .value then readUnless budget false false [.comma, .closeSequence]
            else pure empty
          return (key, value)
        return mapping .mapping [entry] :: (← readFlowSequence budget false)
      else
        let item ← read budget false false
        return item :: (← readFlowSequence budget false)

/-- Read the entries of a flow mapping.  An entry may be a key alone. -/
def readFlowMapping : Nat → Bool → Reader (List (Node × Node))
  | 0, _ => fail
  | budget + 1, first => do
    if ← accept .closeMapping then return []
    else
      if !first then expect .comma
      if ← accept .closeMapping then return []
      else if ← accept .key then
        let key ← readUnless budget false false [.value, .comma, .closeMapping]
        let value ←
          if ← accept .value then readUnless budget false false [.comma, .closeMapping]
          else pure empty
        return (key, value) :: (← readFlowMapping budget false)
      else
        let key ← read budget false false
        return (key, empty) :: (← readFlowMapping budget false)

end

/-- What the two handles that need no directive stand for. -/
def standardHandles : List (String × String) := [("!", "!"), ("!!", Tag.standardHandle)]

/-- Read the directives before a document: at most one version, which has to
be a version one, and at most one meaning of each handle. -/
def readDirectives : Bool → List (String × String) → List Token →
    Except Failure (List (String × String) × List Token)
  | versioned, handles, .version major :: rest =>
    if versioned || major != 1 then .error .malformed else readDirectives true handles rest
  | versioned, handles, .handle h meaning :: rest =>
    if handles.any fun e => e.1 == h then .error .malformed
    else readDirectives versioned ((h, meaning) :: handles) rest
  | versioned, handles, .otherDirective :: rest => readDirectives versioned handles rest
  | _, _, .broken failure :: _ => .error failure
  | _, handles, rest => .ok (handles ++ standardHandles, rest)

/-- Check that nothing is left but marks that end documents. -/
def checkOver : List Token → Except Failure Unit
  | [] => .ok ()
  | .documentEnd :: rest => checkOver rest
  | tokens => do
    let _ ← readDirectives false [] tokens
    .error .malformed

/-- Whether a document begins with marks of its own. -/
def isExplicit : List Token → Bool
  | .documentStart :: _ | .otherDirective :: _ => true
  | .version _ :: _ | .handle _ _ :: _ => true
  | _ => false

/-- The root node of a text, if it has one, for a reader with so much room on
its stack.  A second document is an error. -/
def ofTokens (room : Nat) (tokens : List Token) : Except Failure (Option Node) := do
  let budget := 4 * tokens.length + 4
  if tokens.isEmpty then return none
  else if isExplicit tokens then
    let (handles, rest) ← readDirectives false [] tokens
    match rest with
    | .documentStart :: rest =>
      let (node, left) ← (readUnlessOver budget).run { tokens := rest, room, handles }
      checkOver left.tokens
      return some node
    | _ => .error .malformed
  else
    let (node, left) ← (read budget true false).run { tokens, room, handles := standardHandles }
    checkOver left.tokens
    return some node
where
  /-- The content of a document, which may be empty. -/
  readUnlessOver (budget : Nat) : Reader Node := do
    match ← peek with
    | none | some .documentEnd => return empty
    | some token => if isExplicit [token] then return empty else read budget true false

end Node
end Yaml
end PolicyHost
