import PolicyHost.Binding
import PolicyHost.Payload
import PolicyHost.Remote.Wire

namespace PolicyHost
namespace Remote

/-!
# Clients of a policy server

A policy server keeps policies under their ids and documents under their
paths, and decides.  Every call to it is one exchange: a request that is known
beforehand, and a way to read the response.  A call that cannot be made fails
before any request.
-/

structure StoredPolicy where
  id : String
  source : HostText := .whole ""
deriving DecidableEq, Repr, Inhabited

/-- What a server decided.  A result that is undefined is null.  A server that
logs its decisions gives them ids. -/
structure Decision where
  result : Value := .null
  id : Option String := none
deriving Inhabited

inductive Call where
  | health
  | setPolicy (policy : StoredPolicy)
  | getPolicy (id : String)
  | listPolicies
  | deletePolicy (id : String)
  | setDocument (path : String) (value : Value)
  | deleteDocument (path : String)
  /-- Decide about an input, with a result that fits a schema. -/
  | getDecision (path : String) (input : Value) (schema : Schema)
  /-- Decide what a binding names. -/
  | decide (binding : Binding) (input : Value)

inductive Reply where
  | done
  | policy (policy : StoredPolicy)
  | policies (policies : List StoredPolicy)
  | decision (decision : Decision)
deriving Inhabited

/-! ## Documents -/

def policySchema : Schema :=
  .model "Policy"
    [("id", .refined .nonEmpty .text, none), ("raw", .text, some (.text ""))]
    .ignore

def policyResponse : Schema :=
  .model "_PolicyResponse" [("result", policySchema, none)] .ignore

def policiesResponse : Schema :=
  .model "_PolicyListResponse" [("result", .list policySchema, some (.list []))] .ignore

def decisionResponse (schema : Schema) : Schema :=
  .model ("Decision[" ++ schema.fullName ++ "]")
    [("result", schema.optional, some .null),
      ("decision_id", Schema.identifier.optional, some .null)]
    .ignore

def StoredPolicy.ofRecord (record : Value) : StoredPolicy where
  id := (record.field "id").text?.getD ""
  source := (record.field "raw").hostText?.getD (.whole "")

def StoredPolicy.ofValue (value : Value) : Except Fault StoredPolicy :=
  match Lenient.check policySchema value with
  | .ok fit => .ok (.ofRecord fit.value)
  | .error issues => .error (.invalid (Issue.summary .host issues))

def readPolicy (response : Response) : Except Report Reply :=
  match Payload.decode response.body policyResponse with
  | .ok record => .ok (.policy (.ofRecord (record.field "result")))
  | .error report => .error report

def readPolicies (response : Response) : Except Report Reply :=
  match Payload.decode response.body policiesResponse with
  | .ok record => .ok (.policies ((record.field "result").items.map StoredPolicy.ofRecord))
  | .error report => .error report

def readDecision (schema : Schema) (response : Response) : Except Report Reply :=
  match Payload.decode response.body (decisionResponse schema) with
  | .ok record =>
    .ok (.decision ⟨record.field "result", (record.field "decision_id").text?⟩)
  | .error report => .error report

def readNothing (_ : Response) : Except Report Reply := .ok .done

/-! ## Exchanges -/

structure Exchange where
  request : Request
  read : Response → Except Report Reply

def Exchange.conclude (exchange : Exchange) (answer : Answer) : Except Report Reply :=
  match received exchange.request answer with
  | .ok response => exchange.read response
  | .error report => .error report

structure Client where
  baseUrl : String
  ownsConnections : Bool
  isClosed : Bool := false
deriving DecidableEq, Repr, Inhabited

namespace Client

def withoutSlashes (url : String) : String :=
  String.ofList (url.toList.reverse.dropWhile (· == '/')).reverse

/-- A client of the server at an address.  It has connections of its own
unless it is given some. -/
def make (url : String) (ownsConnections : Bool) : Client :=
  { baseUrl := withoutSlashes url, ownsConnections }

def close (client : Client) : Client :=
  { client with isClosed := client.isClosed || client.ownsConnections }

def policyUrl (client : Client) (id : String) : String :=
  client.baseUrl ++ "/v1/policies/" ++ id

/-- The address of a document or a decision. -/
def dataUrl (client : Client) (path : String) : String :=
  client.baseUrl ++ "/v1/data/" ++
    String.ofList ((normalizePath path).toList.dropWhile (· == '/'))

def question (input : Bytes) : Body :=
  .json (Utf8.encode "\x7b\"input\":" ++ input ++ Utf8.encode "\x7d")

def asking (client : Client) (path : String) (input : Value) (schema : Schema) :
    Except Fault Exchange :=
  match Payload.encode input with
  | .ok bytes => .ok ⟨⟨.post, client.dataUrl path, some (question bytes)⟩, readDecision schema⟩
  | .error report => .error (.report report)

def exchange (client : Client) : Call → Except Fault Exchange
  | .health => .ok ⟨⟨.get, client.baseUrl ++ "/health", none⟩, readNothing⟩
  | .setPolicy policy =>
    match policy.source.utf8? with
    | some bytes => .ok ⟨⟨.put, client.policyUrl policy.id, some (.text bytes)⟩, readNothing⟩
    | none => .error .unencodable
  | .getPolicy id => .ok ⟨⟨.get, client.policyUrl id, none⟩, readPolicy⟩
  | .listPolicies => .ok ⟨⟨.get, client.baseUrl ++ "/v1/policies", none⟩, readPolicies⟩
  | .deletePolicy id => .ok ⟨⟨.delete, client.policyUrl id, none⟩, readNothing⟩
  | .setDocument path value =>
    match Payload.encode value with
    | .ok bytes => .ok ⟨⟨.put, client.dataUrl path, some (.json bytes)⟩, readNothing⟩
    | .error report => .error (.report report)
  | .deleteDocument path => .ok ⟨⟨.delete, client.dataUrl path, none⟩, readNothing⟩
  | .getDecision path input schema => client.asking path input schema
  | .decide binding input =>
    match binding.prepareInput input with
    | .ok input => client.asking binding.path input binding.output
    | .error report => .error (.report report)

end Client
end Remote
end PolicyHost
