import MoodleTenancy.Child.Basic
import MoodleTenancy.Declaration.Basic

/-!
# The objects of a tenant

Every object follows from the declaration, the settings and the namespace it goes to; the cluster
has no part in it.

* `Child.space`: the namespace of a tenant.
* `Child.secret`, `Child.deployment`, `Child.claim`, `Child.service`, `Child.ingress`,
  `Child.policy`, `Child.autoscaler`, `Child.cronJob`, `Child.budget`: the objects in it.
* `Owner.of`: the tenant as their owner.
-/

namespace MoodleTenancy
set_option autoImplicit false

/-- The tenant as the owner of its objects. Without a uid it cannot own any. -/
def Owner.of (t : Declaration) : Except Fault Owner :=
  match t.metadata.uid with
  | some uid => .ok ⟨t.apiVersion, t.kind, t.metadata.name, uid⟩
  | none => .error (.invalid ⟨"V1OwnerReference", [⟨.notText, [.key "uid"], .json .null⟩]⟩)

/-! ## Parts shared by workloads -/

def httpPort : Nat := 8080

def servicePort : Nat := 80

def phpPort : Nat := 9000

def memcachedPort : Nat := 11211

def dataVolumeName : String := "moodle-data"

def dataMount : VolumeMount := ⟨dataVolumeName, "/var/www/moodledata"⟩

def dataVolume (t : Declaration) : Volume := ⟨dataVolumeName, Names.claim t.identifier⟩

/-- The environment of the web server and of the maintenance task. The seconds were read, or are the
default, so they are short enough to be written. -/
def sharedEnv (t : Declaration) : List EnvVar :=
  let secret := t.spec.database.adminSecret
  [⟨"PHP_MAX_EXECUTION_TIME", .value (toString t.spec.php.executionSeconds)⟩,
    ⟨"PHP_MEMORY_LIMIT", .value t.spec.php.memory⟩,
    ⟨"MOODLE_URL", .value t.url⟩,
    ⟨"DB_HOST", .secretKey secret "host"⟩,
    ⟨"DB_NAME", .secretKey secret "database"⟩,
    ⟨"DB_USER", .secretKey secret "username"⟩,
    ⟨"DB_PASS", .secretKey secret "password"⟩]

def Quantity.texts (qs : List (String × Quantity)) : List (String × String) :=
  qs.map fun q => (q.1, q.2.toString)

/-- The declared amounts; none if there are neither requests nor limits. -/
def Resources.bounds (r : Resources) : Option ResourceBounds :=
  if r.requests.isEmpty && r.limits.isEmpty then none
  else some ⟨Quantity.texts r.requests, Quantity.texts r.limits⟩

/-! ## Containers and pods -/

def webContainer (t : Declaration) : Container where
  name := "moodle-php"
  image := t.spec.image
  ports := [⟨"http", httpPort⟩]
  env := sharedEnv t
  resources := t.spec.resources.bounds
  mounts := [dataMount]
  liveness := some ⟨phpPort, 30, 10, 5, 3⟩
  readiness := some ⟨phpPort, 10, 5, 3, 3⟩

/-- The cache of the web server. Its megabytes were read, or are the default, so they are short
enough to be written. -/
def cacheContainer (s : Settings) (t : Declaration) : Container :=
  let megabytes := toString t.spec.memcached.megabytes
  { name := "memcached"
    image := s.memcachedImage
    command := ["memcached", "-m", megabytes, "-I", "2m"]
    ports := [⟨"memcached", memcachedPort⟩]
    resources := some ⟨[("cpu", "10m"), ("memory", megabytes ++ "Mi")],
      [("cpu", "100m"), ("memory", megabytes ++ "Mi")]⟩ }

/-- Web server pods, spread over nodes and zones as far as possible. -/
def webTemplate (s : Settings) (t : Declaration) : PodTemplate :=
  let labels := Names.labels t.identifier
  { labels := some labels
    containers := [webContainer t, cacheContainer s t]
    volumes := [dataVolume t]
    spread := [⟨"kubernetes.io/hostname", labels⟩, ⟨"topology.kubernetes.io/zone", labels⟩] }

/-- Pods of the maintenance task carry no tenant labels, so no selector of the tenant's finds
them. -/
def cronTemplate (t : Declaration) : PodTemplate where
  containers := [{
    name := "moodle-cron"
    image := t.spec.image
    command := ["/usr/local/bin/php", "/var/www/html/admin/cli/cron.php"]
    env := sharedEnv t
    resources := some ⟨[("cpu", "100m"), ("memory", "256Mi")],
      [("cpu", "500m"), ("memory", "512Mi")]⟩
    mounts := [dataMount] }]
  volumes := [dataVolume t]
  restartPolicy := some "OnFailure"

/-! ## What the objects say -/

def storageClassOf (s : Settings) (t : Declaration) : String :=
  if t.spec.storage.storageClass = "" then s.defaultStorageClass else t.spec.storage.storageClass

def secretData (t : Declaration) : SecretData :=
  let db := t.spec.database
  [("host", db.host), ("database", db.name), ("username", db.user), ("password", db.password)]

def deploymentSpec (s : Settings) (t : Declaration) : DeploymentSpec where
  replicas := t.spec.autoscaling.initialReplicas
  selected := Names.labels t.identifier
  template := webTemplate s t

def claimSpec (s : Settings) (t : Declaration) : ClaimSpec where
  accessMode := s.accessMode (storageClassOf s t)
  storageClass := storageClassOf s t
  size := t.spec.storage.size

def serviceSpec (t : Declaration) : ServiceSpec :=
  ⟨Names.labels t.identifier, servicePort, httpPort⟩

def ingressSpec (s : Settings) (t : Declaration) : IngressSpec where
  className := s.ingressClass
  host := t.spec.hostname
  tlsHost := t.spec.hostname
  tlsSecret := Names.tlsSecret t.identifier
  service := Names.service t.identifier
  port := servicePort

/-- The label by which a namespace is selected under its name. -/
def namespaceNamed (name : String) : Labels := [("kubernetes.io/metadata.name", name)]

/-- In from the ingress controller; out to the database, to name resolution and to the web. -/
def policySpec (s : Settings) : PolicySpec where
  sources := [namespaceNamed s.ingressNamespace]
  egress := [
    ⟨some [(s.databaseNamespaceLabel, "true")], [⟨"TCP", s.databasePort⟩]⟩,
    ⟨some (namespaceNamed "kube-system"), [⟨"UDP", 53⟩, ⟨"TCP", 53⟩]⟩,
    ⟨none, [⟨"TCP", 80⟩, ⟨"TCP", 443⟩]⟩]

def autoscalerSpec (t : Declaration) : AutoscalerSpec where
  targetApiVersion := Kind.deployment.apiVersion
  targetKind := Kind.deployment.name
  targetName := Names.deployment t.identifier
  minReplicas := t.spec.autoscaling.lowest
  maxReplicas := t.spec.autoscaling.maxReplicas
  cpu := t.spec.autoscaling.load

/-! ## The objects -/

namespace Child

def space (s : Settings) (t : Declaration) : Child where
  name := Names.space s t.identifier
  namespaceName := none
  labels := Names.spaceLabels t.identifier
  owner := none
  spec := .namespaceSpec

/-- An object in a namespace, with the tenant's labels and owner. -/
def owned (t : Declaration) (o : Owner) (ns : Option String) (name : String) (spec : ChildSpec) :
    Child where
  name := name
  namespaceName := ns
  labels := Names.labels t.identifier
  owner := some o
  spec := spec

variable (s : Settings) (t : Declaration) (o : Owner) (ns : Option String)

def secret : Child := owned t o ns t.spec.database.adminSecret (.secret (secretData t))

def deployment : Child :=
  owned t o ns (Names.deployment t.identifier) (.deployment (deploymentSpec s t))

def claim : Child := owned t o ns (Names.claim t.identifier) (.claim (claimSpec s t))

def service : Child := owned t o ns (Names.service t.identifier) (.service (serviceSpec t))

def ingress : Child := owned t o ns (Names.ingress t.identifier) (.ingress (ingressSpec s t))

def policy : Child := owned t o ns Names.networkPolicy (.policy (policySpec s))

def autoscaler : Child :=
  owned t o ns (Names.autoscaler t.identifier) (.autoscaler (autoscalerSpec t))

def cronJob : Child :=
  owned t o ns (Names.cronJob t.identifier) (.cron ⟨"*/5 * * * *", cronTemplate t⟩)

def budget : Child :=
  owned t o ns (Names.budget t.identifier) (.budget ⟨1, Names.labels t.identifier⟩)

end Child
end MoodleTenancy
