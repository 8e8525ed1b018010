import MoodleTenancy.Json.Literal
import MoodleTenancy.Text.Excerpt
import MoodleTenancy.Time.Reading

/-!
# What can be wrong with a value

* `Complaint`: the reasons for which a value is refused, each with a `code` and a `message`.
* `Subject`: what is complained about, a JSON value as a rule.
* `Issue`: a complaint, the place of its subject inside what was read, and the subject.
* `Report`: all issues of one reading, and its text.
-/

namespace MoodleTenancy.Validation
set_option autoImplicit false

inductive Complaint where
  /-- No object where the named model is expected. -/
  | notModel (model : String)
  | missing
  | notText
  | emptyText
  | notInteger
  | fractional
  | notFinite
  /-- Text that writes no integer. -/
  | unreadableInteger
  /-- A whole number, in floating point, of more than 64 bits, or text of too many digits. -/
  | oversizedInteger
  | tooSmall (least : Int)
  | tooGreat (greatest : Int)
  | notFlag
  /-- A value that might be a flag but is neither spelling of one. -/
  | unreadableFlag
  | notList
  | notMap
  | notBytes
  | notTime
  /-- Text that writes no time, not even a date. -/
  | unreadableTime (why : Time.DateFault)
  /-- A date or a number that is no moment. -/
  | impossibleTime (why : Time.MomentFault)
  /-- A field is set that the model does not have. -/
  | unknownField (field : String)
  /-- An object has a field that its model does not have. -/
  | extraField
  /-- Fields that are fine one by one and not together. -/
  | inconsistent (why : String)
deriving DecidableEq

namespace Complaint

def code : Complaint → String
  | notModel _ => "model_type"
  | missing => "missing"
  | notText => "string_type"
  | emptyText => "string_too_short"
  | notInteger => "int_type"
  | fractional => "int_from_float"
  | notFinite => "finite_number"
  | unreadableInteger => "int_parsing"
  | oversizedInteger => "int_parsing_size"
  | tooSmall _ => "greater_than_equal"
  | tooGreat _ => "less_than_equal"
  | notFlag => "bool_type"
  | unreadableFlag => "bool_parsing"
  | notList => "list_type"
  | notMap => "dict_type"
  | notBytes => "bytes_type"
  | notTime => "datetime_type"
  | unreadableTime _ => "datetime_from_date_parsing"
  | impossibleTime _ => "datetime_parsing"
  | unknownField _ => "no_such_attribute"
  | extraField => "extra_forbidden"
  | inconsistent _ => "value_error"

def message : Complaint → String
  | notModel model => "Input should be a valid dictionary or instance of " ++ model
  | missing => "Field required"
  | notText => "Input should be a valid string"
  | emptyText => "String should have at least 1 character"
  | notInteger => "Input should be a valid integer"
  | fractional => "Input should be a valid integer, got a number with a fractional part"
  | notFinite => "Input should be a finite number"
  | unreadableInteger =>
    "Input should be a valid integer, unable to parse string as an integer"
  | oversizedInteger => "Unable to parse input string as an integer, exceeded maximum size"
  | tooSmall least => "Input should be greater than or equal to " ++ toString least
  | tooGreat greatest => "Input should be less than or equal to " ++ toString greatest
  | notFlag => "Input should be a valid boolean"
  | unreadableFlag => "Input should be a valid boolean, unable to interpret input"
  | notList => "Input should be a valid list"
  | notMap => "Input should be a valid dictionary"
  | notBytes => "Input should be a valid bytes"
  | notTime => "Input should be a valid datetime"
  | unreadableTime why => "Input should be a valid datetime or date, " ++ why.message
  | impossibleTime why => "Input should be a valid datetime, " ++ why.message
  | unknownField field => "Object has no attribute '" ++ field ++ "'"
  | extraField => "Extra inputs are not permitted"
  | inconsistent why => "Value error, " ++ why

end Complaint

/-- One step from a value to a part of it. -/
inductive Step where
  | key (k : String)
  | index (i : Int)
deriving DecidableEq

/-- The step to the entry under a key. A key that is no text and no integer goes by its literal. -/
def Step.ofKey : Key → Step
  | .text s => key s
  | .flag b => index (if b then 1 else 0)
  | .int n => if Numeric.isWord n then index n else key (Json.keyLiteral (.int n))
  | k => key (Json.keyLiteral k)

/-- A key with a full stop in it is marked off from the path around it. -/
def Step.text : Step → String
  | key k => if k.toList.contains '.' then "`" ++ k ++ "`" else k
  | index i => toString i

/-- What is complained about. -/
inductive Subject where
  | json (value : Json)
  /-- Something that is not JSON, by its literal and the name of its kind. -/
  | object (literal kindName : String)

namespace Subject

def literal : Subject → String
  | json value => value.literal
  | object text _ => text

def kindName : Subject → String
  | json value => value.kindName
  | object _ name => name

end Subject

structure Issue where
  complaint : Complaint
  path : List Step
  subject : Subject

/-- Where a reader of a report finds more about the complaints, each under its code. -/
def helpPage : String := "https://errors.pydantic.dev/2.14/v/"

namespace Issue

/-- The issue as seen from one step further out. -/
def within (step : Step) (i : Issue) : Issue :=
  { i with path := step :: i.path }

/-- The lines of an issue in a report. -/
def lines (i : Issue) : List String :=
  let value := String.ofList (Text.excerpt i.subject.literal.toList)
  (if i.path.isEmpty then [] else [".".intercalate (i.path.map Step.text)]) ++
    ["  " ++ i.complaint.message ++ " [type=" ++ i.complaint.code ++ ", input_value=" ++ value ++
        ", input_type=" ++ i.subject.kindName ++ "]",
      "    For further information visit " ++ helpPage ++ i.complaint.code]

end Issue

/-- The issues of one reading, under the name of the model read or of the call it was for. -/
structure Report where
  title : String
  issues : List Issue

/-- Fails with a report if there are issues. -/
def Report.ofIssues (title : String) (issues : List Issue) : Except Report Unit :=
  if issues.isEmpty then .ok () else .error ⟨title, issues⟩

def Report.text (r : Report) : String :=
  let n := r.issues.length
  "\n".intercalate
    ((toString n ++ " validation error" ++ (if n = 1 then "" else "s") ++ " for " ++ r.title) ::
      r.issues.flatMap Issue.lines)

end MoodleTenancy.Validation
