import MoodleTenancy.Schema.Basic

/-!
# Shapes that many objects share

* `Shape.objectMeta`: the metadata of an object.
* `Shape.labelSelector`, `Shape.condition`, `Shape.localReference`: parts of specifications and
  states.
* `Shape.object`: an object with metadata and members of its own.
-/

namespace MoodleTenancy.Shape
set_option autoImplicit false

/-! ## Metadata -/

def managedFields : Shape := model "V1ManagedFieldsEntry" [
  given "apiVersion" text, given "fieldsType" text, given "fieldsV1" record,
  given "manager" text, given "operation" text, given "subresource" text, given "time" moment]

def ownerReference : Shape := model "V1OwnerReference" [
  needed "apiVersion" text, given "blockOwnerDeletion" flag, given "controller" flag,
  needed "kind" text, needed "name" text, needed "uid" text]

def objectMeta : Shape := model "V1ObjectMeta" [
  given "annotations" (map text), given "creationTimestamp" moment,
  given "deletionGracePeriodSeconds" integer, given "deletionTimestamp" moment,
  given "finalizers" (list text), given "generateName" text, given "generation" integer,
  given "labels" (map text), given "managedFields" (list managedFields), given "name" text,
  given "namespace" text, given "ownerReferences" (list ownerReference),
  given "resourceVersion" text, given "selfLink" text, given "uid" text]

/-- An object with metadata and members of its own, which go behind it. -/
def object (name : String) (members : List Member) : Shape :=
  model name ([given "apiVersion" text, given "kind" text, given "metadata" objectMeta] ++ members)

/-! ## Selectors, conditions and references -/

def labelSelectorRequirement : Shape := model "V1LabelSelectorRequirement" [
  needed "key" text, needed "operator" text, given "values" (list text)]

def labelSelector : Shape := model "V1LabelSelector" [
  given "matchExpressions" (list labelSelectorRequirement), given "matchLabels" (map text)]

def condition : Shape := model "V1Condition" [
  needed "lastTransitionTime" moment, needed "message" text, given "observedGeneration" integer,
  needed "reason" text, needed "status" text, needed "type" text]

/-- A condition of one kind of object; some have members of their own, which go first. -/
def conditionOf (name : String) (own : List Member) : Shape :=
  model name (own ++ [given "message" text, given "reason" text, needed "status" text,
    needed "type" text])

def localReference : Shape := model "V1LocalObjectReference" [given "name" text]

def typedLocalReference : Shape := model "V1TypedLocalObjectReference" [
  given "apiGroup" text, needed "kind" text, needed "name" text]

def typedReference : Shape := model "V1TypedObjectReference" [
  given "apiGroup" text, needed "kind" text, needed "name" text, given "namespace" text]

def objectReference : Shape := model "V1ObjectReference"
  (givens text ["apiVersion", "fieldPath", "kind", "name", "namespace", "resourceVersion", "uid"])

end MoodleTenancy.Shape
