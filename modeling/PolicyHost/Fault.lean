import PolicyHost.Report
import PolicyHost.Yaml.Cursor

namespace PolicyHost

/-!
# Faults

What can end an operation early.  Most faults are reports of the host's own
domain.  The others come from below it or from outside: arguments no
operation is made for, handlers that refuse to go on, and callers that give
up in the middle of a block.
-/

/-- Why an operation did not return. -/
inductive Fault where
  | report (report : Report)
  /-- A number that is no guest address. -/
  | badAddress (offset : Int)
  /-- A range that is not inside a view. -/
  | outsideView (start stop length : Int)
  /-- A raw write that begins past the memory. -/
  | outsideMemory
  /-- A binding without a policy path. -/
  | unnamedPolicy (binding : String)
  /-- An argument of the wrong type. -/
  | badType
  /-- An argument of the right type with an impossible value. -/
  | badValue
  /-- Bytes that are not UTF-8 where text was needed. -/
  | notText
  /-- A YAML scalar that is not what its type asks for. -/
  | badScalar (failure : Yaml.Failure)
  /-- A text without a UTF-8 form where bytes were needed. -/
  | unencodable
  /-- A document with more inside itself than its reader has room for. -/
  | exhausted
  /-- A value that does not fit its schema, with the summary of its issues. -/
  | invalid (summary : String)
  /-- A style tag that closes nothing. -/
  | badMarkup
  /-- A handler of the embedding program refused. -/
  | handler
  /-- The caller left a block on its own account. -/
  | interruption
  /-- A lock was given back that nobody held. -/
  | unheldLock
  /-- A step names something that was never stored. -/
  | noSlot
deriving Inhabited

namespace Fault

def text : Fault → String
  | report r => r.text
  | badAddress offset => "Guest address out of range: " ++ toString offset
  | outsideView start stop length =>
    "Range [" ++ toString start ++ ", " ++ toString stop ++ ") outside a " ++ toString length ++
      " byte view"
  | unnamedPolicy binding => binding ++ " must define a non-empty policy_path"
  | invalid summary => summary
  | _ => ""

/-- The report of a fault of the host's own domain. -/
def report? : Fault → Option Report
  | report r => some r
  | _ => none

def isA (fault : Fault) (kind : ReportKind) : Bool :=
  match fault with
  | report r => r.kind.isA kind
  | _ => false

end Fault
end PolicyHost
