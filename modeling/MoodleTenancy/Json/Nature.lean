import MoodleTenancy.Json.Key

/-!
# Natures

Past the entries of a value, a path leads on to what the value is: to what is worked out from it, to
its operations, to its kind and to what that declares. None of this belongs to any document. What is
there depends on natures alone, and so does what comes of a change there.

* `Nature`: what something is, as far as a path can tell.
* `Nature.kindName`: the kind of something.
* `Nature.isWhole`: whether a path is back at the object that it started from.
-/

namespace MoodleTenancy
set_option autoImplicit false

inductive Nature where
  /-- Some value of a kind. -/
  | of (kind : String)
  /-- A moment of a clock that is not known. -/
  | naive
  /-- The object that a path started from. -/
  | whole (kind : String)
  /-- A kind itself. -/
  | itself (kind : String)
  /-- An operation that the kind `owner` declares, of something. -/
  | operation (called owner : String) (subject : Nature)
  /-- What stands behind an operator that the kind `owner` declares. -/
  | operator (owner : String) (subject : Nature)
  /-- An operation of a model. -/
  | method (subject : Nature)
  /-- What the kind `owner` declares under a name; `sort` is the kind of the declaration. -/
  | declared (sort called owner : String)
  | table (entries : List (Key × Nature))
  | sequence (items : List Nature)
  /-- A model itself, with what it has under names. -/
  | model (attributes : List (String × Nature))

namespace Nature

/-- The kind of models. -/
def modelKind : String := "ModelMetaclass"

def kindName : Nature → String
  | of kind => kind
  | naive => "datetime.datetime"
  | whole kind => kind
  | itself _ => "type"
  | operation _ _ _ => "builtin_function_or_method"
  | operator _ _ => "method-wrapper"
  | method _ => "method"
  | declared sort _ _ => sort
  | table _ => "dict"
  | sequence _ => "list"
  | model _ => modelKind

/-- Whether this is the object that the path started from. -/
def isWhole : Nature → Bool
  | whole _ => true
  | _ => false

end Nature
end MoodleTenancy
