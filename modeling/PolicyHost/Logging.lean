import PolicyHost.Fault

namespace PolicyHost
namespace Logging

/-!
# Logging

The host tells what it does through records: a logger's name, a level and a
text.  Loggers are named below one root.  The root is set up once, with a
level and a line format; a format has to show at least one field of the
record.
-/

inductive Level where
  | debug
  | info
  | warning
  | error
  | critical
deriving DecidableEq, Repr, Inhabited

namespace Level

def number : Level → Nat
  | debug => 10
  | info => 20
  | warning => 30
  | error => 40
  | critical => 50

def name : Level → String
  | debug => "DEBUG"
  | info => "INFO"
  | warning => "WARNING"
  | error => "ERROR"
  | critical => "CRITICAL"

def named? (name : String) : Option Level :=
  [debug, info, warning, error, critical].find? fun level => level.name == name

end Level

structure Record where
  logger : String
  level : Level
  text : String
deriving DecidableEq, Repr

/-- The name of the root of the host's loggers. -/
def rootName : String := "opawasm"

def loggerName (name : String) : String :=
  rootName ++ "." ++ name

def record (logger : String) (level : Level) (text : String) : Record :=
  ⟨loggerName logger, level, text⟩

/-- The line format in use unless another one is given. -/
def standardFormat : String :=
  "%(asctime)s - %(name)s - %(levelname)s - %(message)s"

/-- The format of points in time. -/
def dateFormat : String := "%Y-%m-%d %H:%M:%S"

/-- What an empty format stands for. -/
def bareFormat : String := "%(message)s"

/-- A character of a field's name. -/
def isNameChar (c : Char) : Bool :=
  c.isAlphanum || c == '_' || 0x80 ≤ c.toNat

/-- A star or digits, or neither. -/
def dropCount : List Char → List Char
  | '*' :: rest => rest
  | chars => chars.dropWhile Char.isDigit

/-- Whether a text continues a field after its name: flags, width, precision
and the letter of a conversion. -/
def endsField (chars : List Char) : Bool :=
  let flagged := chars.dropWhile fun c => "#0+ -".toList.contains c
  let sized := dropCount flagged
  let precise := match sized with
    | '.' :: '*' :: rest => rest
    | '.' :: d :: rest => if d.isDigit then dropCount rest else sized
    | rest => rest
  match precise with
  | c :: _ => "diouxefgcrsa%".toList.contains c
  | [] => false

def beginsField : List Char → Bool
  | '%' :: '(' :: rest =>
    !(rest.takeWhile isNameChar).isEmpty &&
      match rest.dropWhile isNameChar with
      | ')' :: rest => endsField rest
      | _ => false
  | _ => false

def showsField : List Char → Bool
  | [] => false
  | c :: rest => beginsField (c :: rest) || showsField rest

def levelNumber : Value → Except Fault Int
  | .int n => .ok n
  | .bool b => .ok (if b then 1 else 0)
  | .text "NOTSET" => .ok 0
  | .text "WARN" => .ok Level.warning.number
  | .text "FATAL" => .ok Level.critical.number
  | .text name =>
    match Level.named? name with
    | some level => .ok level.number
    | none => .error .badValue
  | _ => .error .badType

structure Setup where
  level : Int
  format : String
deriving DecidableEq, Repr

/-- Set up the root. -/
def setup (level : Value) (format : Option String) : Except Fault Setup :=
  let format := match format with
    | none => standardFormat
    | some "" => bareFormat
    | some format => format
  if showsField format.toList then
    match levelNumber level with
    | .ok level => .ok ⟨level, format⟩
    | .error fault => .error fault
  else .error .badValue

end Logging
end PolicyHost
