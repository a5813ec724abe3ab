import PolicyHost.Text.Characters

namespace PolicyHost
namespace Path

/-!
# Paths of files

Reports name files by their path in normal form: no empty steps and no steps
that stay where they are.  A path that is nothing but such steps is a dot.
-/

/-- The wording for what the operating system says. -/
def systemText : String := "<os>"

def steps (path : String) : List String :=
  (path.splitOn "/").filter fun step => !step.isEmpty && step != "."

/-- Where a path begins.  Two slashes stand for a root of their own. -/
def root (path : String) : String :=
  match path.toList with
  | '/' :: '/' :: '/' :: _ => "/"
  | '/' :: '/' :: _ => "//"
  | '/' :: _ => "/"
  | _ => ""

def normal (path : String) : String :=
  let joined := root path ++ "/".intercalate (steps path)
  if joined.isEmpty then "." else joined

/-- Follow the steps of a path from others.  Two dots lead one step back. -/
def follow (base path : List String) : List String :=
  path.foldl (fun done step => if step = ".." then done.dropLast else done ++ [step]) base

/-- The path of a file named by a path in a directory, without steps back. -/
def resolve (directory path : String) : String :=
  if path.startsWith "/" then "/" ++ "/".intercalate (follow [] (steps path))
  else root directory ++ "/".intercalate (follow (steps directory) (steps path))

/-- The last step of a path. -/
def fileName (path : String) : String :=
  ((steps path).getLast?).getD ""

end Path
end PolicyHost
