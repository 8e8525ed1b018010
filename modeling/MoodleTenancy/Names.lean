import MoodleTenancy.Settings

/-!
# Names and labels

Every name around a tenant follows from its identifier, so that a pass always finds the objects of
the passes before it.

* `Names.space`: the namespace of a tenant.
* `Names.deployment`, `Names.claim` and their kin: the names of the objects in it.
* `Names.labels`: the labels on every object of a tenant, which every selector uses as they are.
* `Settings.accessMode`: how volumes of a storage class can be mounted.
-/

namespace MoodleTenancy
set_option autoImplicit false

abbrev Labels := List (String × String)

namespace Names

/-- The key of the label that holds a tenant's identifier. -/
def labelKey : String := "moodle.bsu.by/tenant"

def labels (id : String) : Labels := [("app", "moodle"), (labelKey, id)]

/-- The labels of a tenant's namespace, which also name the operator. -/
def spaceLabels (id : String) : Labels :=
  labels id ++ [("app.kubernetes.io/managed-by", "moodle-operator")]

def space (s : Settings) (id : String) : String := s.namespacePrefix ++ id

def deployment (id : String) : String := id ++ "-deployment"

def claim (id : String) : String := id ++ "-data"

def service (id : String) : String := id ++ "-service"

def ingress (id : String) : String := id ++ "-ingress"

def tlsSecret (id : String) : String := id ++ "-tls"

def autoscaler (id : String) : String := id ++ "-hpa"

def cronJob (id : String) : String := id ++ "-cron"

def budget (id : String) : String := id ++ "-pdb"

/-- One name for all tenants, since each has a namespace of its own. -/
def networkPolicy : String := "tenant-isolation"

end Names

/-- Volumes of some storage classes can be mounted by one node at a time. -/
def Settings.accessMode (s : Settings) (storageClass : String) : String :=
  if s.singleNodeStorageClasses.contains storageClass then "ReadWriteOnce" else "ReadWriteMany"

end MoodleTenancy
