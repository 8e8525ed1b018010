import MoodleTenancy.Numeric.Magnitude
import MoodleTenancy.Numeric.Shortest

/-!
# Keys of entries

JSON text has nothing but text for keys. In a cluster that keeps its objects in memory an entry can
come under any single value. There numbers are one key if they are equal, and a key keeps the form
in which it came first.

* `Key`: the keys. `Key.identity`: what tells them apart.
* `Key.written`: the text of a key where it has to be text.
-/

namespace MoodleTenancy
set_option autoImplicit false

open Numeric

inductive Key where
  | text (s : String)
  | null
  | flag (b : Bool)
  | int (n : Int)
  | float (x : Binary64)
deriving DecidableEq

instance : Coe String Key := ⟨Key.text⟩

namespace Key

/-- What tells keys apart. -/
inductive Identity where
  | text (s : String)
  | null
  | number (n : Magnitude)
deriving DecidableEq

def identity : Key → Identity
  | text s => .text s
  | null => .null
  | flag b => .number (.whole (if b then 1 else 0))
  | int n => .number (.whole n)
  | float x => .number (.ofBinary64 x)

@[simp] theorem identity_text (s : String) : (text s).identity = .text s := rfl

/-- The text of a key. -/
def written : Key → String
  | text s => s
  | null => "null"
  | flag b => if b then "true" else "false"
  | int n => toString n
  | float x => x.text

end Key
end MoodleTenancy
