import PolicyHost.Evaluation.Region
import PolicyHost.Payload

namespace PolicyHost
namespace Exchange

/-!
# Documents in and out of a guest

A value goes in as text that the guest parses into a document of its own; a
document comes out as text that the guest dumps, up to a terminator.  The
text buffers in between are released at once where buffers are released.
-/

variable {σ : Type}

/-- The report of a text that the guest does not parse. -/
def rejected : Report :=
  Report.marshaling "encode" "document" "opa_json_parse rejected the payload"

def writeEncoded (terms : Region.Terms) (raw : Bytes) : Operation (Instance σ) Address := do
  let text ← Region.place terms raw
  let document ← Instance.callWord "opa_json_parse" [text.offset, raw.length]
  Region.free terms text
  if document = 0 then Operation.report rejected
  return Address.ofWord document

/-- Have the guest parse a value. -/
def writeValue (terms : Region.Terms) (value : Value) : Operation (Instance σ) Address := do
  writeEncoded terms (← Operation.liftReport (Payload.encode value))

/-- The report of a text without a terminator. -/
def unterminated (target what : String) (address : Address) : Report :=
  Report.marshaling "decode" target
    ("unterminated " ++ what ++ " at address " ++ toString address.offset)

/-- Have the guest dump a document. -/
def readRaw (terms : Region.Terms) (document : Address) : Operation (Instance σ) Bytes := do
  let text ← Instance.callAddress "opa_json_dump" [document.offset]
  let raw ← Operation.ensuring (Region.readUntilZero text) (Region.free terms text)
  match raw with
  | some raw => return raw
  | none => Operation.report (unterminated "document" "JSON text" text)

/-- Have the guest dump a document, and read the value it stands for. -/
def readValue (terms : Region.Terms) (document : Address) (schema : Schema) :
    Operation (Instance σ) Value := do
  Operation.liftReport (Payload.decode (← readRaw terms document) schema)

end Exchange
end PolicyHost
