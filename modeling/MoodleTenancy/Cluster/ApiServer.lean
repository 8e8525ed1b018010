import MoodleTenancy.Child.Manifest
import MoodleTenancy.Task

/-!
# API servers

All that the operator asks of a cluster goes through a few calls. That an object does not exist is
an answer, not a fault. A tenant's name is what a body or a label says it is, text as a rule.

* `ApiServer σ`: the calls, for a cluster with states in `σ`.
-/

namespace MoodleTenancy
set_option autoImplicit false

class ApiServer (σ : Type) where
  /-- The object of a kind with a name in a namespace. -/
  read : Kind → (name : String) → (namespaceName : Option String) → Task σ (Option Part)
  /-- Stores an object as one of a kind, and returns it. -/
  create : Kind → Manifest → Task σ Json
  /-- Whether there was such an object, which is then deleted. -/
  delete : Kind → (name : String) → (namespaceName : Option String) → Task σ Bool
  readTenant : (name : Json) → Task σ (Option Json)
  listTenants : Task σ (List Json)
  /-- Stores a tenant over the stored one, and returns it. -/
  replaceTenant : (body : Json) → Task σ Json
  patchTenantStatus : (name : Json) → (patch : Json) → Task σ Unit

end MoodleTenancy
