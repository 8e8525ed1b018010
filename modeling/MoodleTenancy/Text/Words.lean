/-!
# Names of several words

* `parted`: the words of a name, which start with capitals, set apart by low lines.
-/

namespace MoodleTenancy.Text
set_option autoImplicit false

/-- Whether a word starts at a capital, given the character before and those behind it: after a
small letter or a digit, and at the last capital of several if two small letters follow. One small
letter is no word of its own: it is the plural of the capitals. -/
def startsWord (before : Char) (behind : List Char) : Bool :=
  before.isLower || before.isDigit ||
    match behind with
    | a :: b :: _ => before.isUpper && a.isLower && b.isLower
    | _ => false

/-- Goes on behind a character. -/
def partedAfter : (before : Char) → List Char → List Char
  | _, [] => []
  | before, c :: cs =>
    (if c.isUpper && startsWord before cs then ['_', c.toLower] else [c.toLower]) ++
      partedAfter c cs

/-- The words of a name in small letters, with low lines between them. -/
def parted : List Char → List Char
  | [] => []
  | c :: cs => c.toLower :: partedAfter c cs

example : parted "storageClassName".toList = "storage_class_name".toList := by decide
example : parted "hostIPC".toList = "host_ipc".toList := by decide
example : parted "clusterIPs".toList = "cluster_ips".toList := by decide
example : parted "replicas".toList = "replicas".toList := by decide

end MoodleTenancy.Text
