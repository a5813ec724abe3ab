import PolicyHost.Logging

namespace PolicyHost
namespace Remote

/-!
# Requests and responses

What a client says to a policy server and what it hears.  A request is
answered by a response, or it fails on the way.
-/

/-- What a request asks for. -/
inductive Method where
  | get
  | put
  | post
  | delete
deriving DecidableEq, Repr, Inhabited

def Method.name : Method → String
  | get => "GET"
  | put => "PUT"
  | post => "POST"
  | delete => "DELETE"

/-- What a request carries, and of what type it is. -/
structure Body where
  type : String
  bytes : Bytes
deriving DecidableEq, Repr, Inhabited

namespace Body

def text (bytes : Bytes) : Body := ⟨"text/plain", bytes⟩

def json (bytes : Bytes) : Body := ⟨"application/json", bytes⟩

end Body

structure Request where
  method : Method
  url : String
  body : Option Body := none
deriving DecidableEq, Repr, Inhabited

/-- What is told about a request. -/
def Request.record (request : Request) : Logging.Record :=
  Logging.record "http" .debug (request.method.name ++ " " ++ request.url)

structure Response where
  status : Int
  body : Bytes
deriving DecidableEq, Repr, Inhabited

/-- Why a request has no response. -/
inductive Failure where
  /-- It took too long. -/
  | timeout (message : String)
  /-- It could not be sent, or its response could not be received. -/
  | broken (message : String)
deriving DecidableEq, Repr, Inhabited

/-- What becomes of a request. -/
abbrev Answer := Except Failure Response

namespace Response

/-- Whether a response is what was asked for. -/
def isSuccess (response : Response) : Bool :=
  200 ≤ response.status && response.status ≤ 299

/-- How much of a response is quoted in reports. -/
def quotedLength : Nat := 200

/-- The beginning of a response, for reports. -/
def excerpt (response : Response) : String :=
  String.ofList ((Utf8.decodeLossy response.body).toList.take quotedLength)

end Response

def received (request : Request) : Answer → Except Report Response
  | .error (.timeout message) =>
    .error (Report.requestFailed request.url none ("Request timed out: " ++ message))
  | .error (.broken message) => .error (Report.requestFailed request.url none message)
  | .ok response =>
    if response.isSuccess then .ok response
    else
      .error (Report.requestFailed request.url (some response.status)
        ("HTTP " ++ toString response.status ++ ": " ++ response.excerpt))

end Remote
end PolicyHost
