import MoodleTenancy.Child.Basic
import MoodleTenancy.Schema.Reading

/-!
# Manifests

* `Manifest`: an object as it goes to a cluster.
* `Child.manifest`: the manifest of an object of a tenant, made of the models of its kind.
* `Manifest.bare`: one that says what it is, and nothing else.
-/

namespace MoodleTenancy
set_option autoImplicit false

/-- An object as it goes to a cluster, under the key that it has there. -/
structure Manifest where
  key : ObjectKey
  object : Part

def Manifest.document (m : Manifest) : Json := m.object.toJson

def Child.manifest (c : Child) : Manifest where
  key := c.key
  object := c.kind.shape.typed c.toJson

/-- An object of no model that has a kind, a name and a namespace, which may be null. -/
def Manifest.bare (key : ObjectKey) : Manifest where
  key := key
  object := .bare [("kind", .value (.str key.kind.name)),
    ("metadata", .bare [("name", .value (.str key.name)),
      ("namespace", .value (.ofOption (key.namespaceName.map .str)))])]

end MoodleTenancy
