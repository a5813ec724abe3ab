import PolicyHost.Command
import PolicyHost.Guest.Engine

/-!
# The program

The program reads the files its arguments may name, runs the command line and
prints what comes of it.
-/

namespace PolicyHost
namespace Program

/-- The file an argument may name: the argument itself, or what follows an
equals sign in it or a short option's name. -/
def candidates (argument : String) : List String :=
  let chars := argument.toList
  [argument, String.ofList ((chars.dropWhile (· != '=')).drop 1), String.ofList (chars.drop 2)]

def readFiles (directory : String) (arguments : List String) : IO (List Command.File) := do
  let mut files := []
  for name in arguments.flatMap candidates do
    let path := Path.resolve directory name
    try
      let content ← IO.FS.readBinFile path
      files := { path, content := content.data.toList } :: files
    catch _ => pure ()
  return files

end Program
end PolicyHost

open PolicyHost in
/-- Run a command line. -/
def main (arguments : List String) : IO UInt32 := do
  let directory := (← IO.currentDir).toString
  let folder : Command.Folder := ⟨directory, ← Program.readFiles directory arguments⟩
  let outcome := Command.run .standard Engine.policies folder arguments
  IO.print outcome.output
  match outcome.misuse, outcome.raised with
  | some misuse, _ => IO.eprintln ("Error: " ++ misuse.text)
  | none, some fault => IO.eprintln fault.text
  | none, none => pure ()
  return outcome.exitCode.toUInt32
