import PolicyHost.Remote.Client

namespace PolicyHost
namespace Remote

/-!
# Scripted servers

A script is a server that gives prepared answers, one to each request, and
then no more.
-/

/-- The answers that are left. -/
abbrev Script := List Answer

namespace Script

/-- The answer to a request that nothing is prepared for. -/
def exhausted : Answer := .error (.broken "script exhausted")

def answer : Script → Answer × Script
  | [] => (exhausted, [])
  | next :: rest => (next, rest)

/-- What a call came to, and the request it made if it got that far. -/
structure Outcome where
  result : Except Fault Reply
  request : Option Request

def call (client : Client) (script : Script) (c : Call) : Outcome × Script :=
  match client.exchange c with
  | .error fault => (⟨.error fault, none⟩, script)
  | .ok exchange =>
    let (answer, script) := script.answer
    (⟨(exchange.conclude answer).mapError .report, some exchange.request⟩, script)

/-- Make calls one after the other. -/
def calls (client : Client) : Script → List Call → List Outcome
  | _, [] => []
  | script, c :: rest =>
    let (outcome, script) := call client script c
    outcome :: calls client script rest

end Script
end Remote
end PolicyHost
