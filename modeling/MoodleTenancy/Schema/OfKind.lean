import MoodleTenancy.Kind
import MoodleTenancy.Schema.Network
import MoodleTenancy.Schema.Workload

/-!
# Shapes of the kinds of objects

* `Kind.shape`: the shape of the objects of a kind.
* `Kind.returnsDeleted`: whether the answer to a deletion is the object.
* `Kind.modelName`: the name of the model of a kind.
-/

namespace MoodleTenancy
set_option autoImplicit false

namespace Shape

def namespaceCondition : Shape :=
  conditionOf "V1NamespaceCondition" [given "lastTransitionTime" moment]

def namespaceSpec : Shape := model "V1NamespaceSpec" [given "finalizers" (list text)]

def namespaceStatus : Shape := model "V1NamespaceStatus" [
  given "conditions" (list namespaceCondition), given "phase" text]

def namespaceObject : Shape := object "V1Namespace" [
  given "spec" namespaceSpec, given "status" namespaceStatus]

def secret : Shape := model "V1Secret" [
  given "apiVersion" text, given "data" (map bytes), given "immutable" flag,
  given "kind" text, given "metadata" objectMeta, given "stringData" (map text),
  given "type" text]

end Shape

namespace Kind

def shape : Kind → Shape
  | namespaceKind => .namespaceObject
  | secret => .secret
  | deployment => .deployment
  | persistentVolumeClaim => .volumeClaim
  | service => .service
  | ingress => .ingress
  | networkPolicy => .networkPolicy
  | horizontalPodAutoscaler => .autoscaler
  | cronJob => .cronJob
  | podDisruptionBudget => .disruptionBudget

/-- Whether the server answers the deletion of an object with the object. -/
def returnsDeleted : Kind → Bool
  | persistentVolumeClaim => true
  | service => true
  | _ => false

/-- The version of the API and the kind make up the name of the model. -/
def modelName (k : Kind) : String := k.version.toUpper ++ k.name

theorem name?_shape (k : Kind) : k.shape.name? = some k.modelName := by
  cases k <;> decide +kernel

end Kind
end MoodleTenancy
