import PolicyHost.Configuration
import PolicyHost.Fault
import PolicyHost.Path
import PolicyHost.Yaml.Load

namespace PolicyHost
namespace Configuration

/-!
# Configuration files

A configuration can be written down as YAML.  A document that is empty in any
sense leaves every setting at its default.
-/

def yamlText : String := "Invalid YAML: <yaml>"

/-- The name of a configuration that comes from no file. -/
def textSource : String := "<string>"

def yamlFault (source : String) : Yaml.Failure → Fault
  | .malformed => .report (Report.badConfiguration source yamlText)
  | .exhausted => .exhausted
  | failure => .badScalar failure

/-- The report of a document that does not fit. -/
def misfit (source : String) (issues : List Issue) : Fault :=
  .report (Report.badConfiguration source (Issue.summary .host issues))

variable (load : Yaml.Loader)

def ofYaml (source : String) (text : HostText) : Except Fault Configuration :=
  match load text with
  | .error failure => .error (yamlFault source failure)
  | .ok value => ofData (misfit source) (if value.isFalsy then .mapping [] else value)

def ofText (text : HostText) : Except Fault Configuration := ofYaml load textSource text

def withLineFeeds : List Char → List Char
  | '\r' :: '\n' :: rest => '\n' :: withLineFeeds rest
  | '\r' :: rest => '\n' :: withLineFeeds rest
  | c :: rest => c :: withLineFeeds rest
  | [] => []

/-- The configuration in a file, given what the file holds unless it cannot
be read.  There is no asking for a path that holds a null character. -/
def ofFile (path : String) (content : Option Bytes) : Except Fault Configuration :=
  let source := Path.normal path
  if path.toList.contains '\x00' then .error .badValue
  else match content with
  | none => .error (.report (Report.badConfiguration source Path.systemText))
  | some bytes =>
    match Utf8.decode bytes with
    | none => .error .notText
    | some chars => ofYaml load source (.whole (String.ofList (withLineFeeds chars)))

end Configuration
end PolicyHost
