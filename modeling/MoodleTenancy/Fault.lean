import MoodleTenancy.Kind
import MoodleTenancy.Numeric.Reading
import MoodleTenancy.Schema.Basic
import MoodleTenancy.Time.Timestamp
import MoodleTenancy.Validation.Issue

/-!
# Faults

* `Fault`: what can go wrong in a pass or around it, by cause.
* `Fault.message`: its text in logs and in a tenant's status.
* `Json.entry`, `Json.field`: access to the fields of a value that may turn out not to have any.
-/

namespace MoodleTenancy
set_option autoImplicit false

open Numeric

inductive Fault where
  /-- The API server answered with an error status. -/
  | api (status : Option Int) (reason : Option String)
  /-- A value was refused by its model. -/
  | invalid (report : Validation.Report)
  | missingKey (key : Json)
  /-- No object is stored under the key. -/
  | missingObject (key : ObjectKey)
  /-- A value of the named kind was asked for something that its kind does not have. -/
  | lacks (kind feature : String)
  /-- An object of the named model was asked for something that is no member. -/
  | lacksMember (model called : String)
  /-- A model itself was asked for something that it does not have. -/
  | modelLacks (called : String)
  /-- A value of the named kind was asked for an entry. -/
  | noEntries (kind : String)
  /-- Text or a list was asked for an entry by a key of the named kind. -/
  | keyedEntry (kind keyKind : String)
  /-- A list was asked for an item behind its end, or before its start. -/
  | noItem (forChange : Bool)
  /-- A list was asked for an item at a position of more than 64 bits. -/
  | oversizedPosition
  /-- A value without entries was asked for a part that has no name. -/
  | namelessPart (keyKind : String)
  /-- Something that the named kind works out of its values was to be set. -/
  | derivedPart (kind called : String)
  /-- Something that all values of the named kind share was to be set in one of them. -/
  | sharedPart (kind called : String)
  /-- A kind itself was asked for something that it does not have. -/
  | kindLacks (kind called : String)
  /-- Something was to be set in a kind that is fixed. -/
  | fixedKind (kind called : String)
  /-- A value of the named kind was to become the kind of another. -/
  | noKind (kind : String)
  /-- Something that is kept for reading alone was to be set. -/
  | fixedPart
  /-- A value of the named kind was to become all attributes of an object at once. -/
  | noAttributes (kind : String)
  /-- Something was to be taken out of a value of the named kind. -/
  | cannotErase (kind : String) (byPosition : Bool)
  /-- A field that all objects of a model share was to be set in one of them. -/
  | ofAllObjects (model field : String)
  /-- A field that objects of a model work out themselves was to be set. -/
  | workedOut (model field : String)
  /-- An object for a model has a member under both of its names. -/
  | givenTwice (model wire : String)
  /-- A value of the named kind was used as a key. -/
  | noKey (kind : String)
  /-- Two values of the named kinds were put in order. -/
  | unordered (kind other : String)
  /-- A value of the named kind was gone through item by item. -/
  | noItems (kind : String)
  /-- A list of keys with values has an item that is not a list. -/
  | noPair (position : Nat)
  /-- A list of keys with values has an item with another number of parts than two. -/
  | unevenPair (position parts : Nat)
  /-- One was added to a value that is not a number. -/
  | noSum (value : Json)
  | unknownKind (name : String)
  | unknownOutcome (name : String)
  /-- A setting writes no integer. -/
  | unreadableInteger (text : String)
  /-- An integer has too many digits to be written. -/
  | unwritableInteger
  /-- A setting has too many digits. -/
  | oversizedInteger (digits : Nat)
  /-- A setting writes no number. -/
  | unreadableNumber (text : String)
  /-- An integer is beyond all floating-point numbers. -/
  | tooGreat
  /-- The time cannot be written. -/
  | unwritableTime (why : Time.Unwritable)
  /-- Fewer than one worker is asked for. -/
  | tooFewWorkers
  /-- The caller is to come back after some seconds. -/
  | retryLater (message : String) (delay : Binary64)
  /-- The caller is not to come back. -/
  | giveUp (message : String)
  /-- A fault known by its text alone. -/
  | told (text : String)

namespace Fault

/-- The text of a list or text asked for an entry by a key. -/
def keyedEntryMessage (kind keyKind : String) : String :=
  if kind = "str" then "string indices must be integers, not '" ++ keyKind ++ "'"
  else "list indices must be integers or slices, not " ++ keyKind

def missingObjectMessage (key : ObjectKey) : String :=
  let kind := "<Kind." ++ key.kind.callName.toUpper ++ ": '" ++ key.kind.name ++ "'>"
  "(" ++ kind ++ ", " ++ key.namespaceName.elim "None" Text.quote ++ ", " ++
    Text.quote key.name ++ ")"

def ofAllObjectsMessage (model field : String) : String :=
  "'" ++ field ++ "' is a ClassVar of \x60" ++ model ++ "\x60 and cannot be set on an instance. " ++
    "If you want to set a value on the class, use \x60" ++ model ++ "." ++ field ++ " = value\x60."

def noSumMessage : Json → String
  | .str _ => "can only concatenate str (not \"int\") to str"
  | .arr _ => "can only concatenate list (not \"int\") to list"
  | j => "unsupported operand type(s) for +: '" ++ j.kindName ++ "' and 'int'"

def oversizedMessage (digits : Nat) : String :=
  "Exceeds the limit (" ++ toString digitLimit ++
    " digits) for integer string conversion: value has " ++ toString digits ++
    " digits; use sys.set_int_max_str_digits() to increase the limit"

def unwritableIntegerMessage : String :=
  "Exceeds the limit (" ++ toString digitLimit ++ " digits) for integer string conversion; " ++
    "use sys.set_int_max_str_digits() to increase the limit"

def unwritableTimeMessage : Time.Unwritable → String
  | .beyondWords => "Python int too large to convert to C int"
  | .beyondSpans days =>
    "days=" ++ toString days ++ "; must have magnitude <= " ++ toString Time.longestSpan
  | .beyondYears => "date value out of range"

def message : Fault → String
  | api status reason =>
    "(" ++ (status.elim "None" toString) ++ ")\nReason: " ++ reason.getD "None" ++ "\n"
  | invalid report => report.text
  | missingKey key => key.literal
  | missingObject key => missingObjectMessage key
  | lacks kind feature =>
    "'" ++ kind ++ "' object has no attribute '" ++ feature ++ "'"
  | lacksMember model called => "'" ++ model ++ "' object has no attribute " ++ Text.quote called
  | modelLacks called => called
  | noEntries kind => "'" ++ kind ++ "' object is not subscriptable"
  | keyedEntry kind keyKind => keyedEntryMessage kind keyKind
  | noItem forChange => "list " ++ (if forChange then "assignment " else "") ++ "index out of range"
  | oversizedPosition => "cannot fit 'int' into an index-sized integer"
  | namelessPart keyKind => "attribute name must be string, not '" ++ keyKind ++ "'"
  | derivedPart kind called =>
    "attribute '" ++ called ++ "' of '" ++ kind ++ "' objects is not writable"
  | sharedPart kind called =>
    "'" ++ kind ++ "' object attribute '" ++ called ++ "' is read-only"
  | kindLacks kind called => "type object '" ++ kind ++ "' has no attribute '" ++ called ++ "'"
  | fixedKind kind called =>
    "cannot set " ++ Text.quote called ++ " attribute of immutable type '" ++ kind ++ "'"
  | noKind kind => "__class__ must be set to a class, not '" ++ kind ++ "' object"
  | fixedPart => "readonly attribute"
  | noAttributes kind => "__dict__ must be set to a dictionary, not a '" ++ kind ++ "'"
  | cannotErase kind byPosition =>
    "'" ++ kind ++ "' object " ++ (if byPosition then "doesn't" else "does not") ++
      " support item deletion"
  | ofAllObjects model field => ofAllObjectsMessage model field
  | workedOut model field =>
    "property '" ++ field ++ "' of '" ++ model ++ "' object has no setter"
  | givenTwice model wire => Shape.givenTwiceText model wire
  | noKey kind => "unhashable type: '" ++ kind ++ "'"
  | unordered kind other =>
    "'<' not supported between instances of '" ++ kind ++ "' and '" ++ other ++ "'"
  | noItems kind => "'" ++ kind ++ "' object is not iterable"
  | noPair position =>
    "cannot convert dictionary update sequence element #" ++ toString position ++
      " to a sequence"
  | unevenPair position parts =>
    "dictionary update sequence element #" ++ toString position ++ " has length " ++
      toString parts ++ "; 2 is required"
  | noSum value => noSumMessage value
  | unknownKind name => Text.quote name ++ " is not a valid Kind"
  | unknownOutcome name => Text.quote name ++ " is not a valid Outcome"
  | unreadableInteger text =>
    "invalid literal for int() with base 10: " ++ Text.firstChars 200 (Text.quote text)
  | oversizedInteger digits => oversizedMessage digits
  | unwritableInteger => unwritableIntegerMessage
  | unreadableNumber text => "could not convert string to float: " ++ Text.quote text
  | tooGreat => "int too large to convert to float"
  | unwritableTime why => unwritableTimeMessage why
  | tooFewWorkers => "Can't set thread pool limit lower than 1."
  | retryLater message _ => message
  | giveUp message => message
  | told text => text

/-- The server has no such object. -/
def notFound : Fault := api (some 404) (some "Not Found")

/-- The object is older than the server's. -/
def conflict : Fault := api (some 409) (some "Conflict")

/-- The server has such an object already. -/
def alreadyExists : Fault := api (some 409) (some "AlreadyExists")

/-- Whether the server said that there is no such object, for whatever reason. -/
def isNotFound : Fault → Bool
  | api status _ => status == some 404
  | _ => false

@[simp] theorem isNotFound_notFound : notFound.isNotFound = true := rfl

end Fault

/-- The text of the time, where it can be written. -/
def stamp (now : Time.Instant) : Except Fault String :=
  now.stamp?.mapError Fault.unwritableTime

namespace Json

/-- The text of a value at the outside of a message, unless it is an integer too long to write. -/
def writtenOut : Json → Except Fault String
  | int n =>
    if digitLimit < (Nat.toDigits 10 n.natAbs).length then .error .unwritableInteger
    else .ok (int n).plain
  | j => .ok j.plain

/-- The key that a value stands for. -/
def asKey (j : Json) : Except Fault Key :=
  match j.key? with
  | some k => .ok k
  | none => .error (.noKey j.kindName)

/-! ## Access to fields -/

/-- The field of an object, which has to be there. -/
def entry (key : String) : Json → Except Fault Json
  | obj fields =>
    match Fields.get? key fields with
    | some v => .ok v
    | none => .error (.missingKey (.str key))
  | str s => .error (.keyedEntry (str s).kindName (str key).kindName)
  | arr items => .error (.keyedEntry (arr items).kindName (str key).kindName)
  | j => .error (.noEntries j.kindName)

/-- The field of an object, null if it is absent. -/
def field (key : String) : Json → Except Fault Json
  | obj fields => .ok (ofOption (Fields.get? key fields))
  | j => .error (.lacks j.kindName "get")

/-- The items that a value is made of: of a list its items, of text its characters, of an object its
keys. -/
def itemsOf : Json → Except Fault (List Json)
  | arr items => .ok items
  | str s => .ok (s.toList.map fun c => str (String.ofList [c]))
  | obj fields => .ok (fields.map fun f => ofKey f.1)
  | j => .error (.noItems j.kindName)

@[simp] theorem field_obj (key : String) (fields : Fields) :
    (obj fields).field key = .ok (ofOption (Fields.get? key fields)) := rfl

end Json
end MoodleTenancy
