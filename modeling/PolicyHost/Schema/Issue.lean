import PolicyHost.Value.Literal

namespace PolicyHost

/-!
# Issues

A value that does not fit a schema has one issue or more, each with the place
it was found at.  Readings of documents and of host values find the same
issues and word some of them differently.
-/

/-- What a value was read from. -/
inductive Source where
  | document
  | host
deriving DecidableEq, Repr

/-- What is wrong with a value. -/
inductive Complaint where
  | notJson
  | notBool
  | unclearBool
  | notInt
  | unclearInt
  | fractional
  | oversizedInt
  | notFloat
  | unclearFloat
  | notFinite
  | notText
  | notUtf8
  | tooShort
  | notBytes
  | missing
  | notNull
  | notList
  | notSet
  | notTuple
  | notMapping
  | notModel (name : String)
  | tooLong (limit count : Nat)
  | notLiteral (choices : List Value)
  | extra
  | keyNotText
  | below (bound : Int)
  | refused (reason : String)
  | notIdentifier
  | unclearIdentifier

namespace Complaint

def code : Complaint → String
  | notJson => "json_invalid"
  | notBool => "bool_type"
  | unclearBool => "bool_parsing"
  | notInt => "int_type"
  | unclearInt => "int_parsing"
  | fractional => "int_from_float"
  | oversizedInt => "int_parsing_size"
  | notFloat => "float_type"
  | unclearFloat => "float_parsing"
  | notFinite => "finite_number"
  | notText => "string_type"
  | notUtf8 => "string_unicode"
  | tooShort => "string_too_short"
  | notBytes => "bytes_type"
  | missing => "missing"
  | notNull => "none_required"
  | notList => "list_type"
  | notSet => "set_type"
  | notTuple => "tuple_type"
  | notMapping => "dict_type"
  | notModel _ => "model_type"
  | tooLong _ _ => "too_long"
  | notLiteral _ => "literal_error"
  | extra => "extra_forbidden"
  | keyNotText => "invalid_key"
  | below _ => "greater_than_equal"
  | refused _ => "value_error"
  | notIdentifier => "uuid_type"
  | unclearIdentifier => "uuid_parsing"

def message (source : Source) : Complaint → String
  | notJson | notIdentifier | unclearIdentifier => ""
  | notBool => "Input should be a valid boolean"
  | unclearBool => "Input should be a valid boolean, unable to interpret input"
  | notInt => "Input should be a valid integer"
  | unclearInt => "Input should be a valid integer, unable to parse string as an integer"
  | fractional => "Input should be a valid integer, got a number with a fractional part"
  | oversizedInt => "Unable to parse input string as an integer, exceeded maximum size"
  | notFloat => "Input should be a valid number"
  | unclearFloat => "Input should be a valid number, unable to parse string as a number"
  | notFinite => "Input should be a finite number"
  | notText => "Input should be a valid string"
  | notUtf8 => "Input should be a valid string, unable to parse raw data as a unicode string"
  | tooShort => "String should have at least 1 character"
  | notBytes => "Input should be a valid bytes"
  | missing => "Field required"
  | notNull => match source with
    | .document => "Input should be null"
    | .host => "Input should be None"
  | notList => collection "list"
  | notSet => collection "set"
  | notTuple => collection "tuple"
  | notMapping => match source with
    | .document => "Input should be an object"
    | .host => "Input should be a valid dictionary"
  | notModel name => match source with
    | .document => "Input should be an object"
    | .host => "Input should be a valid dictionary or instance of " ++ name
  | tooLong limit count =>
    "Tuple should have at most " ++ toString limit ++ (if limit = 1 then " item" else " items") ++
      " after validation, not " ++ toString count
  | notLiteral choices =>
    "Input should be " ++ Literal.alternatives "or" (Literal.ofValues choices)
  | extra => "Extra inputs are not permitted"
  | keyNotText => "Keys should be strings"
  | below bound => "Input should be greater than or equal to " ++ toString bound
  | refused reason => "Value error, " ++ reason
where
  collection (name : String) : String :=
    match source with
    | .document => "Input should be a valid array"
    | .host => "Input should be a valid " ++ name

end Complaint

/-- A complaint and its place: field names, indices and member labels from
the outside in. -/
structure Issue where
  place : List String
  complaint : Complaint

namespace Issue

/-- An issue of the value itself. -/
def here (complaint : Complaint) : Issue := ⟨[], complaint⟩

/-- An issue seen from one level further out. -/
def within (step : String) (issue : Issue) : Issue :=
  { issue with place := step :: issue.place }

def text (source : Source) (issue : Issue) : String :=
  ".".intercalate issue.place ++ "|" ++ issue.complaint.code ++ "|" ++
    issue.complaint.message source

/-- The text of all issues of a value. -/
def summary (source : Source) (issues : List Issue) : String :=
  "<invalid: " ++ "; ".intercalate (issues.map (text source)) ++ ">"

end Issue
end PolicyHost
