import PolicyHost.Fault
import PolicyHost.Schema.Lenient

namespace PolicyHost

/-!
# Policy bindings

A binding ties the path of a policy decision to the schemas of its input and
its result, so that callers name the decision once.  Bindings are declared,
possibly on top of another binding, from which they take what they leave out.
-/

/-- A policy path with every separator a slash. -/
def normalizePath (path : String) : String :=
  String.ofList (path.toList.map fun c => if c = '.' then '/' else c)

structure Binding where
  name : String
  path : String
  input : Schema
  output : Schema
deriving Inhabited

structure Declaration where
  name : String
  path : Option Value
  input : Option Schema
  output : Option Schema
  isAbstract : Bool

namespace Binding

def root : Binding := ⟨"PolicyDecision", "", .any, .any⟩

/-- Declare a binding on top of another.  Only an abstract one may do without
a path. -/
def declare (base : Binding) (d : Declaration) : Except Fault Binding :=
  let path? := match d.path with
    | none => some base.path
    | some (.text path) => some path
    | some _ => none
  let input := d.input.getD base.input
  let output := d.output.getD base.output
  match path? with
  | none => .error (.unnamedPolicy d.name)
  | some path =>
    if !d.isAbstract && (Characters.trimText path).isEmpty then .error (.unnamedPolicy d.name)
    else .ok ⟨d.name, path, input, output⟩

/-- Declare a binding on top of others, the first of them declared first. -/
def declareAll : Binding → List Declaration → Except Fault Binding
  | base, [] => .ok base
  | base, d :: ds =>
    match declare base d with
    | .ok binding => declareAll binding ds
    | .error fault => .error fault

def entrypoint (binding : Binding) : String :=
  normalizePath binding.path

/-- Check an input against the binding's schema.  A schema that accepts
anything leaves the input as it is. -/
def prepareInput (binding : Binding) (value : Value) : Except Report Value :=
  match binding.input with
  | .any => .ok value
  | schema =>
    match Lenient.check schema value with
    | .ok fit => .ok fit.value
    | .error issues =>
      .error (Report.marshaling "encode" schema.name (Issue.summary .host issues))

end Binding
end PolicyHost
