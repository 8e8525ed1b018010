import MoodleTenancy.Json.Basic
import MoodleTenancy.Numeric.Shortest
import MoodleTenancy.Text.Quoted

/-!
# The text of JSON values in messages

Messages show a value as a literal: `None`, `True`, numbers, quoted text, and lists and maps of such
literals in brackets and braces. The kind of a value is named `NoneType`, `bool`, `int`, `float`,
`str`, `list` or `dict`.

* `Json.literal`: the literal of a value.
* `Json.plain`: the same, but text at the outside stands without quotation marks.
* `Json.kindName`: the name of its kind.
-/

namespace MoodleTenancy
set_option autoImplicit false

namespace Json

def kindName : Json → String
  | null => "NoneType"
  | bool _ => "bool"
  | int _ => "int"
  | float _ => "float"
  | str _ => "str"
  | arr _ => "list"
  | obj _ => "dict"

def keyLiteral : Key → String
  | .text s => Text.quote s
  | .null => "None"
  | .flag b => if b then "True" else "False"
  | .int n => toString n
  | .float x => x.text

mutual

def literal : Json → String
  | null => "None"
  | bool b => if b then "True" else "False"
  | int n => toString n
  | float x => x.text
  | str s => Text.quote s
  | arr items => "[" ++ literalItems items ++ "]"
  | obj fields => "\x7b" ++ literalFields fields ++ "\x7d"
termination_by structural j => j

def literalItems : List Json → String
  | [] => ""
  | [x] => literal x
  | x :: xs => literal x ++ ", " ++ literalItems xs
termination_by structural xs => xs

def literalFields : List (Key × Json) → String
  | [] => ""
  | [(k, v)] => keyLiteral k ++ ": " ++ literal v
  | (k, v) :: fs => keyLiteral k ++ ": " ++ literal v ++ ", " ++ literalFields fs
termination_by structural fs => fs

end

/-- The text of a value at the outside of a message. -/
def plain : Json → String
  | str s => s
  | j => j.literal

end Json
end MoodleTenancy
