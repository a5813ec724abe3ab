import PolicyHost.Json.Token

namespace PolicyHost
namespace Json

/-!
# Reading JSON text

Tokens are put together on a stack of open containers.  One token is consumed
at each step, so reading ends with the tokens.  A container joins the stack
with its first element, so the depth of a document, which is the height the
stack reaches, does not count empty containers.
-/

/-- A container that has not been closed, with what it holds so far in
reverse.  An object is open at the member whose name is kept. -/
inductive Open where
  | array (done : List Document)
  | object (done : List (String × Document)) (name : String)

structure Dialect where
  /-- How many containers that hold something may be open at once, if that is
  bounded. -/
  depth : Option Nat

/-- The dialect of documents that cross the guest boundary or the network. -/
def strictDialect : Dialect := ⟨some 200⟩

inductive Expect where
  /-- A value. -/
  | value (stack : List Open)
  /-- The first element of an array, or its end. -/
  | firstElement (stack : List Open)
  /-- The name of a member after others. -/
  | name (stack : List Open) (done : List (String × Document))
  /-- The name of the first member, or the end of the object. -/
  | firstName (stack : List Open)
  /-- The colon after a name. -/
  | colon (stack : List Open) (done : List (String × Document)) (name : String)
  /-- What follows a complete value. -/
  | after (stack : List Open) (complete : Document)

/-- Whether one more container may hold something. -/
def Dialect.admits (dialect : Dialect) (stack : List Open) : Bool :=
  match dialect.depth with
  | none => true
  | some limit => stack.length < limit

def readValue (stack : List Open) : Token → Option Expect
  | .beginArray => some (.firstElement stack)
  | .beginObject => some (.firstName stack)
  | .text s => some (.after stack (.text s))
  | .bare word => (bareDocument? word).map (.after stack)
  | _ => none

def readToken (dialect : Dialect) : Expect → Token → Option Expect
  | .value stack, token => readValue stack token
  | .firstElement stack, .endArray => some (.after stack (.array []))
  | .firstElement stack, token =>
    if dialect.admits stack then readValue (.array [] :: stack) token else none
  | .firstName stack, .endObject => some (.after stack (.object []))
  | .firstName stack, .text name =>
    if dialect.admits stack then some (.colon stack [] name) else none
  | .name stack done, .text name => some (.colon stack done name)
  | .colon stack done name, .colon => some (.value (.object done name :: stack))
  | .after (.array done :: stack) complete, .comma =>
    some (.value (.array (complete :: done) :: stack))
  | .after (.array done :: stack) complete, .endArray =>
    some (.after stack (.array (complete :: done).reverse))
  | .after (.object done name :: stack) complete, .comma =>
    some (.name stack ((name, complete) :: done))
  | .after (.object done name :: stack) complete, .endObject =>
    some (.after stack (.object ((name, complete) :: done).reverse))
  | _, _ => none

def readTokens (dialect : Dialect) : Expect → List Token → Option Document
  | .after [] complete, [] => some complete
  | _, [] => none
  | expect, token :: rest =>
    match readToken dialect expect token with
    | none => none
    | some next => readTokens dialect next rest

/-- The document a text denotes, if it is JSON. -/
def readChars (dialect : Dialect) (chars : List Char) : Option Document :=
  match scan chars with
  | none => none
  | some tokens => readTokens dialect (.value []) tokens

/-- The document UTF-8 bytes denote under the strict dialect. -/
def read (bytes : Bytes) : Option Document :=
  match Utf8.decode bytes with
  | none => none
  | some chars => readChars strictDialect chars

end Json
end PolicyHost
