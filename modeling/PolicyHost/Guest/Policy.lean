import PolicyHost.Guest.Machine

namespace PolicyHost

/-!
# Policies as guests see them

A policy is a table of entrypoints and a rule for each of them.  A rule
performs some actions and then answers with a document put together from
parts.  The remaining fields tell how the module that carries the policy is
made: what it exports, what memory it asks for, and which of its exports
misbehave, and when.
-/

/-- Something a policy does on its way to an answer. -/
inductive Action where
  /-- Print a text of its own. -/
  | print (text : Bytes)
  /-- Print the text at an address. -/
  | printAt (address : UInt32)
  /-- Give up with a message of its own. -/
  | abort (text : Bytes)
  /-- Give up with the message at an address. -/
  | abortAt (address : UInt32)
  /-- Call a builtin that is left to the host. -/
  | builtin (arity : Nat) (id : Int)
  | trap
  /-- Take memory and keep it. -/
  | allocate (size : UInt32)
deriving DecidableEq, Repr

inductive Part where
  | text (bytes : Bytes)
  /-- The same byte several times. -/
  | repeated (byte : UInt8) (count : UInt32)
  /-- The text of the input document. -/
  | input
  /-- The text of the data document. -/
  | data
  /-- Whether the data document is more than empty brackets. -/
  | hasData
deriving DecidableEq, Repr

structure PolicyRule where
  id : UInt32
  actions : List Action
  answer : List Part

/-- What an export does instead of its work, or before it. -/
inductive Misbehaviour where
  | trap
  | result (value : UInt32)
  /-- Place the next dumped text at the very end of memory, unterminated. -/
  | atEnd
deriving DecidableEq, Repr

/-- A misbehaviour at one call of an export, counted from one, or at all its
calls if the count is zero. -/
structure Override where
  export_ : String
  call : Nat
  misbehaviours : List Misbehaviour

inductive MinorVersion where
  | constant (value : Int)
  | function (result : UInt32)
deriving DecidableEq, Repr

structure Policy where
  minor : Option MinorVersion
  /-- The text of the entrypoint table. -/
  table : Bytes
  rules : List PolicyRule
  heapBase : UInt32
  /-- Whether a name is left out of the exports. -/
  omits : List String
  omitsAll : Bool
  /-- Functions that are exported as globals instead. -/
  asConstants : List String
  memoryLeast : Nat
  memoryMost : Option Nat
  importsUnknown : Bool
  start : List Action
  overrides : List Override

namespace Policy

def standardTable : String :=
  "\x7b\"echo/input\":0,\"echo/data\":1,\"example/allow\":2,\"empty/result\":3,\"abort/now\":4," ++
    "\"debug/print\":5,\"builtin/call\":6,\"echo/twice\":7\x7d"

def answering (part : Part) : List Part :=
  [.text (Utf8.encode "[\x7b\"result\":"), part, .text (Utf8.encode "\x7d]")]

def affirming : List Part := [.text (Utf8.encode "[\x7b\"result\":true\x7d]")]

def standardRules : List PolicyRule :=
  [⟨0, [], answering .input⟩,
    ⟨1, [], answering .data⟩,
    ⟨2, [], answering .hasData⟩,
    ⟨3, [], [.text (Utf8.encode "[]")]⟩,
    ⟨4, [.abort (Utf8.encode "policy aborted"), .trap], []⟩,
    ⟨5, [.print (Utf8.encode "hello from policy")], affirming⟩,
    ⟨6, [.builtin 0 0, .builtin 2 1], affirming⟩,
    ⟨7, [],
      [.text (Utf8.encode "[\x7b\"result\":\"first\"\x7d,\x7b\"result\":"), .input,
        .text (Utf8.encode "\x7d]")]⟩]

def standard : Policy where
  minor := none
  table := Utf8.encode standardTable
  rules := standardRules
  heapBase := 4096
  omits := []
  omitsAll := false
  asConstants := []
  memoryLeast := 2
  memoryMost := none
  importsUnknown := false
  start := []
  overrides := []

/-- A module without any exports. -/
def empty : Policy := { standard with omitsAll := true, memoryLeast := 0 }

/-- The texts a policy prints or gives up with, in order. -/
def ownTexts (policy : Policy) : List Bytes :=
  (policy.rules.flatMap (·.actions) ++ policy.start).filterMap fun action =>
    match action with
    | .print text | .abort text => some text
    | _ => none

/-- Where the module's own texts begin in memory. -/
def textsFrom : Nat := 64

/-- The module's own texts as they lie in memory, each with a terminator. -/
def ownMemory (policy : Policy) : Bytes :=
  policy.ownTexts.flatMap fun text => text ++ [0]

/-- The address of one of the module's own texts. -/
def addressOf (texts : List Bytes) (text : Bytes) (start : Nat) : UInt32 :=
  match texts with
  | [] => 0
  | t :: rest => if t = text then .ofNat start else addressOf rest text (start + t.length + 1)

end Policy
end PolicyHost
