import PolicyHost.Schema
import PolicyHost.Schema.Issue
import PolicyHost.Text.Characters

namespace PolicyHost

/-!
# How well a value fits

A value that fits a schema yields the value it stands for and how closely it
fitted.  A choice takes the member that fits closest: first by the number of
model fields that were given, then by exactness, then by position.
-/

/-- How much a value had to be converted. -/
inductive Exactness where
  | converted
  | close
  | exact
deriving DecidableEq, Repr

namespace Exactness

/-- The place of a degree in their order. -/
def rank : Exactness → Nat
  | converted => 0
  | close => 1
  | exact => 2

/-- The lesser of two degrees. -/
def least (a b : Exactness) : Exactness :=
  if a.rank ≤ b.rank then a else b

end Exactness

structure Fit (α : Type) where
  value : α
  exactness : Exactness := .exact
  /-- How many model fields were given, if there was a model. -/
  given : Option Nat := none

/-- The outcome of checking a value. -/
abbrev Checked (α : Type) := Except (List Issue) (Fit α)

namespace Checked

def fits {α : Type} (value : α) (exactness : Exactness := .exact) : Checked α :=
  .ok ⟨value, exactness, none⟩

/-- A value that does not fit. -/
def fails {α : Type} (complaint : Complaint) : Checked α :=
  .error [.here complaint]

/-- The same outcome seen from one level further out. -/
def within {α : Type} (step : String) : Checked α → Checked α
  | .ok fit => .ok fit
  | .error issues => .error (issues.map (Issue.within step))

def mapValue {α β : Type} (f : α → β) : Checked α → Checked β
  | .ok fit => .ok ⟨f fit.value, fit.exactness, fit.given⟩
  | .error issues => .error issues

def atMost {α : Type} (bound : Exactness) : Checked α → Checked α
  | .ok fit => .ok { fit with exactness := fit.exactness.least bound }
  | .error issues => .error issues

/-- Fields given in two parts. -/
def addGiven : Option Nat → Option Nat → Option Nat
  | none, given | given, none => given
  | some m, some n => some (m + n)

/-- The outcome for a list.  Elements that may be anything are not looked at, and fit
exactly. -/
def unlessAny {α : Type} (item : Schema) : Checked α → Checked α
  | .ok fit => .ok { fit with exactness := if item matches .any then .exact else fit.exactness }
  | .error issues => .error issues

def withGiven {α : Type} (count : Nat) : Checked α → Checked α
  | .ok fit => .ok { fit with given := addGiven fit.given (some count) }
  | .error issues => .error issues

def both {α β γ : Type} (f : α → β → γ) : Checked α → Checked β → Checked γ
  | .ok a, .ok b =>
    .ok ⟨f a.value b.value, a.exactness.least b.exactness, addGiven a.given b.given⟩
  | .ok _, .error issues | .error issues, .ok _ => .error issues
  | .error first, .error second => .error (first ++ second)

/-- All outcomes as one, with the issues of all. -/
def all {α : Type} : List (Checked α) → Checked (List α)
  | [] => fits []
  | x :: xs => both List.cons x (all xs)

/-- Whether a new candidate of a choice is better than the best so far. -/
def better {α : Type} (best candidate : Fit α) : Bool :=
  match best.given, candidate.given with
  | some m, some n => if m != n then m < n else best.exactness.rank < candidate.exactness.rank
  | _, _ => best.exactness.rank < candidate.exactness.rank

/-- The best of the outcomes of a choice's members, each with its label.  An
exact fit without model fields ends the search. -/
def bestOf {α : Type} (best : Option (Fit α)) (issues : List Issue) :
    List (String × Checked α) → Checked α
  | [] => match best with
    | some fit => .ok fit
    | none => .error issues
  | (label, .error found) :: rest =>
    bestOf best (if best.isSome then issues else issues ++ found.map (Issue.within label)) rest
  | (_, .ok fit) :: rest =>
    if fit.exactness = .exact && fit.given.isNone then .ok fit
    else match best with
      | none => bestOf (some fit) issues rest
      | some b => bestOf (some (if better b fit then fit else b)) issues rest

/-- The outcome of a choice.  A single member needs no label. -/
def ofMembers {α : Type} : List (String × Checked α) → Checked α
  | [(_, outcome)] => outcome
  | outcomes => bestOf none [] outcomes

end Checked

namespace Rule

/-- The names of the log levels, in the order of messages. -/
def levelNames : List String := ["CRITICAL", "DEBUG", "ERROR", "INFO", "WARNING"]

/-- A path from the root, in whatever its dots and slashes are.  Leading `./`
are dropped. -/
def rootPath {α : Type} [DecidableEq α] (dot slash : α) : List α → List α
  | a :: b :: rest =>
    if a = dot ∧ b = slash then rootPath dot slash rest
    else if a = slash then a :: b :: rest
    else slash :: a :: b :: rest
  | rest => if rest = [slash] then rest else slash :: rest

/-- An archive member's name as a rooted path. -/
def rootText (name : String) : String :=
  String.ofList (rootPath '.' '/' name.toList)

def apply : Rule → Value → Except Complaint Value
  | nonEmpty, .text s => if s.isEmpty then .error .tooShort else .ok (.text s)
  | nonEmpty, .unencodable _ | levelName, .unencodable _ => .error .notUtf8
  | atLeast bound, .int n => if n < bound then .error (.below bound) else .ok (.int n)
  | levelName, .text s =>
    let level := Characters.upperText s
    if levelNames.contains level then .ok (.text level)
    else
      .error (.refused ("Invalid log level: " ++ s ++ ". Must be one of: " ++
        ", ".intercalate levelNames))
  | memberPath, .text s =>
    .ok (.text (if s.isEmpty then s else rootText s))
  | _, value => .ok value

def applyTo (rule : Rule) : Checked Value → Checked Value
  | .error issues => .error issues
  | .ok fit =>
    match rule.apply fit.value with
    | .ok value => .ok { fit with value }
    | .error complaint => .error [.here complaint]

end Rule

namespace Schema

def lastEqual (choices : List Value) (v : Value) : Option Value :=
  choices.reverse.find? fun choice => choice.same v

/-- Whether an integer fits a machine word. -/
def isWord (n : Int) : Bool := -9223372036854775808 ≤ n && n ≤ 9223372036854775807

/-- The constant a value stands for.  A boolean, a word or a text of the very
type comes first; after that equality across number types counts. -/
def literalFor (choices : List Value) (v : Value) : Option Value :=
  let identical := choices.find? fun choice =>
    match choice, v with
    | .bool a, .bool b => a == b
    | .int a, .int b => a == b && isWord a
    | .text a, .text b => a == b
    | _, _ => false
  let special := choices.filter fun choice =>
    match choice with
    | .bool _ | .null => true
    | .int n => !isWord n
    | _ => false
  identical.or ((lastEqual special v).or (lastEqual choices v))

end Schema
end PolicyHost
