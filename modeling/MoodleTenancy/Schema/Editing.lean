import MoodleTenancy.Fault
import MoodleTenancy.Schema.Facet
import MoodleTenancy.Schema.Reading

/-!
# Editing cluster objects

A path to a part of an object names the members of models as programs do; below lists and maps it
goes on by positions and keys. What is put into a member has to be of its shape, and becomes a part
of that shape; what is put into a list or a map, or down as a note, is taken as it is.

* `Part.changed`: the part after a change of the part under a key.
* `Part.edited`: the part after a change at the end of a path.
-/

namespace MoodleTenancy
set_option autoImplicit false

namespace Part

/-- An object of a model that holds what a map says. What is no member there is a note. -/
def ofAttributes (name : String) (members : List Member) (attributes : List (Key × Part)) : Part :=
  let called := members.map fun m => Key.text (attributeOf m.1)
  model name members
    (members.filterMap fun m => (Fields.get? (attributeOf m.1) attributes).map fun v =>
      (Key.text m.1, v))
    (attributes.filter fun f => !called.contains f.1)

/-- Why something that is no member of a model cannot be set in an object of it. A name that starts
with a low line is free for notes. -/
def noMember? (name called : String) (value : Json) : Option Fault :=
  if called = kindField then some (.noKind value.kindName)
  else if called = "__weakref__" then some (.derivedPart name called)
  else if (Model.tables name).contains called then some (.ofAllObjects name called)
  else if Model.views.contains called then some (.workedOut name called)
  else if called.startsWith "_" then none
  else some (.invalid ⟨name, [⟨.unknownField called, [.key called], .json value⟩]⟩)

/-- Sets a member of a model, or puts down a note. -/
def setMember (name : String) (members : List Member) (called : String) (value : Json)
    (held notes : List (Key × Part)) : Except Fault Part :=
  match Shape.member? called members with
  | some (wire, isNeeded, s) =>
    if value.isNull && !isNeeded then
      .ok (model name members (Fields.set wire nothing held) notes)
    else
      match s.read value with
      | .accepted v => .ok (model name members (Fields.set wire v held) notes)
      | .refused is =>
        .error (.invalid ⟨name, is.map (Validation.Issue.within (.key (attributeOf wire)))⟩)
  | none =>
    match noMember? name called value with
    | some fault => .error fault
    | none => .ok (model name members held (Fields.set called (ofJson value) notes))

/-- Replaces all that an object of a model holds. -/
def setAttributes (name : String) (members : List Member) (value : Json) : Except Fault Part :=
  match value with
  | .obj fields => .ok (ofAttributes name members (ofFields fields))
  | value => .error (.noAttributes value.kindName)

/-- Sets an attribute of an object of no model. -/
def setAttribute (called : String) (value : Json) (attributes : List (Key × Part)) :
    Except Fault Part :=
  if called = kindField then .error (.noKind value.kindName)
  else if called = allAttributes then .error .fixedPart
  else .ok (bare (Fields.set called (ofJson value) attributes))

/-- The part after a change of the part under a key. -/
def changed (p : Part) (key : Json) (change : Change) : Except Fault Part :=
  match p, key, change with
  | list items, key, change =>
    (Json.itemsChanged key (change.value?.map ofJson) items).map list
  | map fields, key, change =>
    (Json.fieldsChanged key (change.value?.map ofJson) fields).map map
  | model name members held notes, .str called, .put v =>
    if called = allAttributes then setAttributes name members v
    else setMember name members called v held notes
  | model name _ _ _, key, .erase => .error (Nature.notErasable name true key)
  | bare attributes, .str called, .put v => setAttribute called v attributes
  | p, key, change => (p.nature.changed key change).map fun _ => p

/-- The part with another part under a key at which it has one. -/
def replaced (p : Part) (key : Json) (value : Part) : Except Fault Part :=
  match p, key, value with
  | list items, key, value => (Json.itemsChanged key (some value) items).map list
  | map fields, key, value => (Json.fieldsChanged key (some value) fields).map map
  | model name members _ _, .str allAttributes, map attributes =>
    .ok (ofAttributes name members attributes)
  | model name members held notes, .str called, value =>
    match Shape.member? called members with
    | some m => .ok (model name members (Fields.set m.1 value held) notes)
    | none => .ok (model name members held (Fields.set called value notes))
  | bare _, .str allAttributes, map attributes => .ok (bare attributes)
  | bare attributes, .str called, value => .ok (bare (Fields.set called value attributes))
  | p, key, _ => .error (Json.noPart p.kindName key)

/-- What a part has under a key without its being a part of it. -/
def beside? (p : Part) (key : Json) : Option (Except Fault Nature) :=
  match p, key with
  | list _, _ => none
  | map _, _ => none
  | model name members held notes, .str called =>
    if (memberUnder? called members held notes).isSome then none
    else (Model.nature? name members called).map .ok
  | model _ _ _ _, _ => none
  | bare attributes, .str called =>
    if (attributeUnder? called attributes).isSome then none
    else some (p.nature.under key)
  | p, key => some (p.nature.under key)

/-- The part after a change at the end of a path that starts from it or from something beside it.
The path may lead back to the part; what else lies beside parts leaves them as they are. -/
def editedFrom (p : Part) : Option Nature → (path : List Json) → Change → Except Fault Part
  | _, [], _ => .error (.noItem false)
  | none, [key], change => p.changed key change
  | some n, [key], change => (n.changed key change).map fun _ => p
  | none, key :: next :: path, change =>
    match p.beside? key with
    | none => do
      let after ← editedFrom (← p.under key) none (next :: path) change
      p.replaced key after
    | some n => do
      editedFrom p (some (← n)) (next :: path) change
  | some n, key :: next :: path, change => do
    let n ← n.under key
    editedFrom p (if n.isWhole then none else some n) (next :: path) change

/-- The part after a change at the end of a path, which has at least one step. -/
def edited (p : Part) (path : List Json) (change : Change) : Except Fault Part :=
  p.editedFrom none path change

end Part
end MoodleTenancy
