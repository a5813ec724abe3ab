import PolicyHost.Fault
import PolicyHost.Logging
import PolicyHost.Schema.Lenient

namespace PolicyHost

/-!
# Configurations

What can be set about a host without writing code: how large guest memory may
grow, whether a module that was compiled ahead is preferred, and two log
levels.  Settings that are left out have defaults, and settings that do not
exist are refused.
-/

structure Configuration where
  maxPages : Option Int := none
  preferPrecompiled : Bool := true
  logLevel : Logging.Level := .warning
  guestLogLevel : Logging.Level := .info
deriving DecidableEq, Repr

namespace Configuration

def schema : Schema :=
  .model "RuntimeConfig"
    [("max_memory_pages", Schema.optional (.refined (.atLeast 2) .int), some .null),
      ("prefer_precompiled", .bool, some (.bool true)),
      ("log_level", .refined .levelName .text, some (.text "WARNING")),
      ("guest_log_level", .refined .levelName .text, some (.text "INFO"))]
    .forbid

def levelOf (otherwise : Logging.Level) : Value → Logging.Level
  | .text name => (Logging.Level.named? name).getD otherwise
  | _ => otherwise

def ofRecord (record : Value) : Configuration where
  maxPages := match record.field "max_memory_pages" with
    | .int n => some n
    | _ => none
  preferPrecompiled := match record.field "prefer_precompiled" with
    | .bool b => b
    | _ => true
  logLevel := levelOf .warning (record.field "log_level")
  guestLogLevel := levelOf .info (record.field "guest_log_level")

def ofValue (value : Value) : Except (List Issue) Configuration :=
  match Lenient.check schema value with
  | .ok fit => .ok (ofRecord fit.value)
  | .error issues => .error issues

/-- Whether a value sets a level to a text without a UTF-8 form. -/
def hasUnencodableLevel : Value → Bool
  | .mapping entries =>
    ["log_level", "guest_log_level"].any fun name =>
      (Lenient.valueOf? entries name matches some (.unencodable _))
  | _ => false

/-- The configuration that a value sets.  Of what is wrong with it the caller
makes a fault, unless the complaint about a level has no UTF-8 form. -/
def ofData (blame : List Issue → Fault) (value : Value) : Except Fault Configuration :=
  if hasUnencodableLevel value then .error .unencodable else (ofValue value).mapError blame

end Configuration
end PolicyHost
