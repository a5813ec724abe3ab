import PolicyHost.Fault
import PolicyHost.Json.Write
import PolicyHost.Schema.Strict

namespace PolicyHost
namespace Payload

/-!
# Payloads

Values cross the guest boundary and the network as JSON text.  On the way out
a value has to have a document form; on the way in a text has to be JSON and
to fit the schema that the caller expects, strictly.

An evaluation answers with a result set, an array of records.  All records
have to fit; the last one counts.
-/

/-- The wording for values without a document form. -/
def unserializable : String := "<unserializable>"

def encode (value : Value) : Except Report Bytes :=
  match Json.write value with
  | some bytes => .ok bytes
  | none => .error (Report.marshaling "encode" value.typeName unserializable)

def decode (raw : Bytes) (schema : Schema) : Except Report Value :=
  match Strict.validateBytes schema raw with
  | .ok value => .ok value
  | .error issues =>
    .error (Report.marshaling "decode" schema.name (Issue.summary .document issues))

def recordSchema (schema : Schema) : Schema :=
  .model ("ResultRecord[" ++ schema.fullName ++ "]") [("result", schema, none)] .ignore

def resultOf : Value → Option Value
  | .record _ _ fields _ => (fields.find? fun f => f.1 == "result").map (·.2)
  | _ => none

def lastResult (raw : Bytes) (schema : Schema) (entrypoint : String) : Except Report Value :=
  match decode raw (.list (recordSchema schema)) with
  | .error report => .error report
  | .ok (.list records) =>
    match records.getLast?.bind resultOf with
    | some result => .ok result
    | none => .error (Report.noResults entrypoint schema.name)
  | .ok _ => .error (Report.noResults entrypoint schema.name)

end Payload
end PolicyHost
