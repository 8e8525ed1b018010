import MoodleTenancy.Json.Entry
import MoodleTenancy.Json.Features

/-!
# What comes of a path behind a value

What something has under a name is of a nature itself, so a path can go on behind it. Where it ends,
the change is refused as a rule, and the reason tells how the thing is held. What is kept for
writing, or belongs to something that takes anything, is changed without a trace.

* `Facet`: how something is held under a name. `Nature.facet?`: the facets of something.
* `Nature.under`: what something has under a key.
* `Nature.changed`: what comes of a change under a key.
* `Nature.outcome`: what comes of a change at the end of a path.
-/

namespace MoodleTenancy
set_option autoImplicit false

/-- How something is held under a name, and what it is. -/
inductive Facet where
  /-- Worked out, as the kind `owner` says. -/
  | derived (owner : String) (is : Nature)
  /-- Kept for reading alone. -/
  | fixed (is : Nature)
  /-- Kept for reading and writing. -/
  | free (is : Nature)
  /-- Shared by all values of a kind. -/
  | shared (is : Nature)
  /-- Belonging to something else. -/
  | lent (is : Nature)

/-- What is held. -/
def Facet.is : Facet → Nature
  | derived _ is => is
  | fixed is => is
  | free is => is
  | shared is => is
  | lent is => is

/-- Everything has its kind under this name. -/
def kindField : String := "__class__"

namespace Nature

def nothing : Nature := of "NoneType"

/-! ## Facets -/

/-- What an operation of a kind is about: one that makes values, the kind that declares it. There is
one that is about nothing. -/
def kindSubject (called owner kind : String) : Nature :=
  if called = "maketrans" then nothing
  else .itself (if called = "__new__" then owner else kind)

/-- What is written down about a name that a kind declares. -/
def written? (called owner asked : String) : Option Nature :=
  if asked = "__text_signature__" && (features owner).unsigned.contains called then some nothing
  else if asked = "__doc__" && (features owner).undocumented.contains called then some nothing
  else none

/-- What this very thing has under a declared name, if that is not the same for all of its kind. -/
def particular? (n : Nature) (asked : String) : Option Nature :=
  match n with
  | naive => if asked = "tzinfo" then some nothing else none
  | operation called owner subject =>
    if asked = "__self__" then some subject else written? called owner asked
  | operator owner subject =>
    if asked = "__self__" then some subject
    else if asked = "__objclass__" then some (.itself owner)
    else none
  | method subject => if asked = "__self__" then some subject else none
  | declared _ called owner =>
    if asked = "__objclass__" then some (.itself owner) else written? called owner asked
  | _ => none

/-- What something has under a name that the kind `owner` declares. -/
def declaredBy? (n : Nature) (called owner : String) : Option Facet :=
  let fs := features owner
  let looked := fun (names : List (String × Nature)) => (names.lookup called).map fun given =>
    (n.particular? called).getD given
  if fs.operations.contains called then some (.shared (.operation called owner n))
  else if fs.kindOperations.contains called then
    some (.shared (.operation called owner (kindSubject called owner n.kindName)))
  else if fs.methods.contains called then some (.shared (.method n))
  else if fs.operators.contains called then some (.shared (.operator owner n))
  else
    ((looked fs.derived).map (Facet.derived owner)).or <|
      ((looked fs.fixed).map Facet.fixed).or <|
      ((looked fs.free).map Facet.free).or ((looked fs.constants).map Facet.shared)

/-- What something has under a name. -/
def facet? (n : Nature) (called : String) : Option Facet :=
  ((lineage n.kindName).findSome? (n.declaredBy? called)).or
    (((features n.kindName).lent.lookup called).map Facet.lent)

/-! ## Kinds -/

/-- What a kind has under a name that the kind `owner` declares for its values. -/
def declaration? (kind called owner : String) : Option Nature :=
  let fs := features owner
  if fs.operations.contains called then some (.declared "method_descriptor" called owner)
  else if fs.kindOperations.contains called then
    some (.operation called owner (kindSubject called owner kind))
  else if fs.methods.contains called then some (.of "function")
  else if fs.operators.contains called then some (.declared "wrapper_descriptor" called owner)
  else if (fs.derived ++ fs.free).any fun f => f.1 = called then
    some (.declared "getset_descriptor" called owner)
  else if fs.fixed.any fun f => f.1 = called then
    some (.declared "member_descriptor" called owner)
  else fs.constants.lookup called

/-- What is known of a kind itself. -/
def known? (kind called : String) : Option Nature :=
  let fs := features kind
  if called = kindField then some (.itself "type")
  else if called = "__base__" then
    some (if kind = "object" then nothing else .itself fs.parent)
  else if called = "__doc__" then
    some <| (fs.constants.lookup called).getD <|
      if fs.derived.any fun f => f.1 = called then .declared "getset_descriptor" called kind
      else .of "str"
  else if called = "__text_signature__" then
    some (if fs.hasSignature then .of "str" else nothing)
  else ((features "type").derived ++ (features "type").fixed).lookup called

/-- What a kind has as one of kinds. -/
def kindFeature? (kind called : String) : Option Nature :=
  let fs := features "type"
  if fs.operations.contains called then some (.operation called "type" (.itself kind))
  else if fs.kindOperations.contains called then some (.operation called "type" (.itself "type"))
  else if fs.operators.contains called then some (.operator "type" (.itself kind))
  else none

/-- What a kind has under a name. -/
def kindUnder (kind called : String) : Except Fault Nature :=
  match ((known? kind called).or ((lineage kind).findSome? (declaration? kind called))).or
      (kindFeature? kind called) with
  | some n => .ok n
  | none =>
    .error (if called = "__abstractmethods__" then .modelLacks called else .kindLacks kind called)

/-! ## Paths -/

/-- What something has under a key. -/
def under (n : Nature) (key : Json) : Except Fault Nature :=
  match n, key with
  | table entries, key => Json.fieldUnder key entries
  | sequence items, key => Json.itemUnder key items
  | itself kind, .str called => kindUnder kind called
  | model attributes, .str called =>
    match attributes.lookup called with
    | some n => .ok n
    | none => .error (.modelLacks called)
  | n, .str called =>
    if called = kindField then .ok (.itself n.kindName)
    else
      match n.facet? called with
      | some facet => .ok facet.is
      | none => .error (.lacks n.kindName called)
  | _, key => .error (.namelessPart key.kindName)

/-- Why something under a name cannot be set. -/
def refusal? (n : Nature) (called : String) (value : Json) : Option Fault :=
  let takesAny := (features n.kindName).takesAny
  if called = kindField then some (.noKind value.kindName)
  else
    match n.facet? called with
    | some (.derived owner _) => some (.derivedPart owner called)
    | some (.fixed _) => some .fixedPart
    | some (.free _) => none
    | some (.shared _) => if takesAny then none else some (.sharedPart n.kindName called)
    | some (.lent _) => some (.lacks n.kindName called)
    | none => if takesAny then none else some (.lacks n.kindName called)

/-- Why the part under a key cannot be taken out of a value of a kind. Some kinds of values without
entries to take out still have positions. -/
def notErasable (kind : String) (hasPositions : Bool) (key : Json) : Fault :=
  match hasPositions, key.position? with
  | true, some n =>
    if Numeric.isWord n then .cannotErase kind true else .oversizedPosition
  | _, _ => .cannotErase kind false

/-- What comes of a change under a key. -/
def changed (n : Nature) (key : Json) (change : Change) : Except Fault Unit :=
  match n, key, change with
  | table entries, key, change =>
    (Json.fieldsChanged key (change.value?.map fun v => of v.kindName) entries).map fun _ => ()
  | sequence items, key, change =>
    (Json.itemsChanged key (change.value?.map fun v => of v.kindName) items).map fun _ => ()
  | itself kind, .str called, .put _ =>
    if (features kind).isOpen then .ok () else .error (.fixedKind kind called)
  | model _, .str _, .put _ => .ok ()
  | n, .str called, .put v =>
    match n.refusal? called v with
    | some fault => .error fault
    | none => .ok ()
  | _, key, .put _ => .error (.namelessPart key.kindName)
  | n, key, .erase => .error (notErasable n.kindName (features n.kindName).hasPositions key)

/-- What comes of a change at the end of a path, which has at least one step. -/
def outcome (n : Nature) : (path : List Json) → Change → Except Fault Unit
  | [], _ => .error (.noItem false)
  | [key], change => n.changed key change
  | key :: path, change => do (← n.under key).outcome path change

end Nature
end MoodleTenancy
