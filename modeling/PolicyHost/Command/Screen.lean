import PolicyHost.Command.Table

namespace PolicyHost
namespace Screen

/-!
# Printing

What a command prints is a row of items, each of which may hold style tags.
A tag that closes nothing stops the printing; what was printed before it
stays.
-/

inductive Item where
  /-- A text on lines of its own. -/
  | text (markup : String)
  | table (content : Table)
  /-- Text that is printed as it is. -/
  | plain (line : String)
deriving DecidableEq, Repr

def ofLines (lines : List String) : String :=
  String.join (lines.map (· ++ "\n"))

variable (terminal : Terminal)

def Item.shown : Item → Option String
  | .text markup =>
    (Markup.shown terminal markup).map fun chars =>
      ofLines ((Paragraph.lines terminal.columns .fold chars).map String.ofList)
  | .table content => (content.lines terminal).map ofLines
  | .plain line => some (line ++ "\n")

/-- Print items.  The result tells what is on the screen, and whether all was
printed. -/
def print : List Item → String × Bool
  | [] => ("", true)
  | item :: rest =>
    match item.shown terminal with
    | none => ("", false)
    | some text =>
      let (more, complete) := print rest
      (text ++ more, complete)

end Screen
end PolicyHost
