import MoodleTenancy.Child.Component
import MoodleTenancy.Proofs.TenantBody

/-!
# References between the objects of a tenant

The objects of a tenant find each other by names, labels, ports and keys, which are written into each
of them apart. What one of them refers to, another one has.

* `Json.at?`, `Json.itemsAt`: the parts of a document behind some keys.
* `Json.get?_presentFields_cons`: the fields of a document of which some are absent.
* `Concur`: two parts are there, and they are equal.
* `Belongs`: an object carries the namespace, the labels and the owner of its tenant.
* `SelectsPods`: every selector has the labels of the tenant's pods.
* `MountsClaim`: a pod mounts nothing but volumes of its own, and these are of the claim.
* `databaseVariables`: what a container's variables for the database get from a secret.
* `Routes`: traffic for the host comes to the web server.
* `objects_refer`: the objects of a tenant refer to each other in all of these ways.
-/

namespace MoodleTenancy
set_option autoImplicit false

/-! ## Parts of documents -/

namespace Json

/-- The part of a value behind some keys, one after the other. -/
def at? : List String → Json → Option Json
  | [], j => some j
  | key :: rest, j => (j.get? key).bind (at? rest)

/-- The items of the list behind some keys; none if there is no list. -/
def itemsAt (path : List String) (j : Json) : List Json :=
  match j.at? path with
  | some (.arr items) => items
  | _ => []

theorem get?_presentFields_cons (key name : String) (v : Option Json)
    (rest : List (String × Option Json)) :
    Fields.get? key (presentFields ((name, v) :: rest)) =
      (if name = key then v else none).or (Fields.get? key (presentFields rest)) := by
  cases v with
  | none => by_cases h : name = key <;> simp [presentFields, h]
  | some v => by_cases h : name = key <;> simp [presentFields, Fields.get?_cons, h]

theorem get?_presentFields_nil (key : Key) : Fields.get? key (presentFields []) = none := rfl

/-- A list that is left out when it is empty has the same items either way. -/
theorem itemsAt_of_list? {path : List String} {j : Json} {items : List Json}
    (h : j.at? path = list? items) : j.itemsAt path = items := by
  rw [itemsAt, h, list?]
  cases items <;> rfl

end Json

/-- Both parts are there, and they are equal. -/
def Concur (a b : Option Json) : Prop := ∃ v, a = some v ∧ b = some v

/-! ## What wire forms have where -/

section WireForms

theorem Container.get?_name (c : Container) : c.toJson.get? "name" = some (.str c.name) := by
  simp [toJson, Json.ofFields, Json.get?_presentFields_cons]

theorem Container.itemsAt_env (c : Container) :
    c.toJson.itemsAt ["env"] = c.env.map EnvVar.toJson :=
  Json.itemsAt_of_list? (by
    simp [toJson, Json.ofFields, Json.at?, Json.get?_presentFields_cons,
      Json.get?_presentFields_nil])

theorem Container.itemsAt_ports (c : Container) :
    c.toJson.itemsAt ["ports"] = c.ports.map ContainerPort.toJson :=
  Json.itemsAt_of_list? (by
    simp [toJson, Json.ofFields, Json.at?, Json.get?_presentFields_cons,
      Json.get?_presentFields_nil])

theorem Container.itemsAt_volumeMounts (c : Container) :
    c.toJson.itemsAt ["volumeMounts"] = c.mounts.map VolumeMount.toJson :=
  Json.itemsAt_of_list? (by
    simp [toJson, Json.ofFields, Json.at?, Json.get?_presentFields_cons,
      Json.get?_presentFields_nil])

theorem PodTemplate.itemsAt_containers (p : PodTemplate) :
    p.toJson.itemsAt ["spec", "containers"] = p.containers.map Container.toJson := by
  simp [toJson, Json.ofFields, Json.itemsAt, Json.at?, Json.get?_presentFields_cons]

theorem PodTemplate.itemsAt_volumes (p : PodTemplate) :
    p.toJson.itemsAt ["spec", "volumes"] = p.volumes.map Volume.toJson := by
  simp [toJson, Json.ofFields, Json.itemsAt, Json.at?, Json.get?_presentFields_cons,
    Json.get?_presentFields_nil]

theorem Child.at?_name (c : Child) : c.toJson.at? ["metadata", "name"] = some (.str c.name) := rfl

end WireForms

/-! ## Namespace, labels and owner -/

/-- An object carries the namespace, the two labels and the owner that it is made for. -/
structure Belongs (ns id : String) (o : Owner) (object : Json) : Prop where
  namespaceName : object.at? ["metadata", "namespace"] = some (.str ns)
  labels : object.at? ["metadata", "labels"] =
    some (.obj [("app", .str "moodle"), ("moodle.bsu.by/tenant", .str id)])
  owner : ∃ ref, object.itemsAt ["metadata", "ownerReferences"] = [ref] ∧
    ref.get? "apiVersion" = some (.str o.apiVersion) ∧ ref.get? "kind" = some (.str o.kind) ∧
    ref.get? "name" = some (.str o.name) ∧ ref.get? "uid" = some (.str o.uid)

theorem Child.belongs_owned (t : Declaration) (o : Owner) (ns name : String) (spec : ChildSpec) :
    Belongs ns t.identifier o (Child.owned t o (some ns) name spec).toJson :=
  ⟨rfl, rfl, _, rfl, rfl, rfl, rfl, rfl⟩

theorem Component.child_eq_owned (s : Settings) (t : Declaration) (o : Owner) (ns : Option String)
    (p : Component) : ∃ spec, p.child s t o ns = .owned t o ns (p.childName t) spec := by
  cases p <;> exact ⟨_, rfl⟩

/-! ## Volumes -/

/-- A pod has volumes, all of them of the claim, and mounts nothing but these. -/
structure MountsClaim (claim pod : Json) : Prop where
  some_volume : pod.itemsAt ["spec", "volumes"] ≠ []
  claimed : ∀ v ∈ pod.itemsAt ["spec", "volumes"],
    Concur (v.at? ["persistentVolumeClaim", "claimName"]) (claim.at? ["metadata", "name"])
  declared : ∀ c ∈ pod.itemsAt ["spec", "containers"], ∀ m ∈ c.itemsAt ["volumeMounts"],
    ∃ v ∈ pod.itemsAt ["spec", "volumes"], Concur (m.get? "name") (v.get? "name")

theorem PodTemplate.mountsClaim {p : PodTemplate} {claim : Child} (hv : p.volumes ≠ [])
    (hclaims : ∀ v ∈ p.volumes, v.claim = claim.name)
    (hmounts : ∀ c ∈ p.containers, ∀ m ∈ c.mounts, ∃ v ∈ p.volumes, v.name = m.volume) :
    MountsClaim claim.toJson p.toJson where
  some_volume := by
    rw [p.itemsAt_volumes]
    intro h
    exact hv (List.map_eq_nil_iff.1 h)
  claimed := by
    rw [p.itemsAt_volumes]
    intro v hv
    obtain ⟨volume, hvolume, rfl⟩ := List.mem_map.1 hv
    refine ⟨.str volume.claim, rfl, ?_⟩
    rw [claim.at?_name, hclaims volume hvolume]
  declared := by
    rw [p.itemsAt_containers, p.itemsAt_volumes]
    intro c hc m hm
    obtain ⟨container, hcontainer, rfl⟩ := List.mem_map.1 hc
    rw [container.itemsAt_volumeMounts] at hm
    obtain ⟨mount, hmount, rfl⟩ := List.mem_map.1 hm
    obtain ⟨volume, hvolume, hname⟩ := hmounts container hcontainer mount hmount
    exact ⟨volume.toJson, List.mem_map_of_mem hvolume, .str mount.volume, rfl,
      by rw [← hname]; rfl⟩

/-! ## Variables for the database -/

/-- What a variable gets from a secret: the entry under its key, if it refers to this secret. -/
def fromSecret (secret v : Json) : Option Json :=
  match v.at? ["valueFrom", "secretKeyRef", "name"], v.at? ["valueFrom", "secretKeyRef", "key"] with
  | some (.str name), some (.str key) =>
    if (Json.ofOption (secret.at? ["metadata", "name"])).isText name then
      secret.at? ["stringData", key]
    else none
  | _, _ => none

/-- The variables of a container for the database, with what each of them gets from a secret. -/
def databaseVariables (secret container : Json) : List (String × Option Json) :=
  (container.itemsAt ["env"]).filterMap fun v =>
    match v.get? "name" with
    | some (.str name) =>
      if "DB_".toList.isPrefixOf name.toList then some (name, fromSecret secret v) else none
    | _ => none

/-- The same of the variables as they are declared. -/
theorem databaseVariables_toJson (secret : Json) (c : Container) :
    databaseVariables secret c.toJson = c.env.filterMap fun v =>
      if "DB_".toList.isPrefixOf v.name.toList then some (v.name, fromSecret secret v.toJson)
      else none := by
  rw [databaseVariables, c.itemsAt_env, List.filterMap_map]
  congr 1
  funext v
  cases hv : v.source <;> simp [Function.comp, EnvVar.toJson, hv, Fields.get?_cons]

/-- What is declared for the database. -/
def databaseEntries (db : Database) : List (String × Option Json) :=
  [("DB_HOST", some (.str db.host)), ("DB_NAME", some (.str db.name)),
    ("DB_USER", some (.str db.user)), ("DB_PASS", some (.str db.password))]

theorem databaseVariables_sharedEnv (t : Declaration) (o : Owner) (ns : Option String)
    {c : Container} (hc : c.env = sharedEnv t) :
    databaseVariables (Child.secret t o ns).toJson c.toJson = databaseEntries t.spec.database := by
  have hentry : ∀ name key, fromSecret (Child.secret t o ns).toJson
      (EnvVar.toJson ⟨name, .secretKey t.spec.database.adminSecret key⟩) =
        (Child.secret t o ns).toJson.at? ["stringData", key] := by
    intro name key
    show (if (Json.str t.spec.database.adminSecret).isText t.spec.database.adminSecret then _
      else _) = _
    rw [if_pos (by simp [Json.isText])]
  have hvariables : databaseVariables (Child.secret t o ns).toJson c.toJson =
      [("DB_HOST", (Child.secret t o ns).toJson.at? ["stringData", "host"]),
        ("DB_NAME", (Child.secret t o ns).toJson.at? ["stringData", "database"]),
        ("DB_USER", (Child.secret t o ns).toJson.at? ["stringData", "username"]),
        ("DB_PASS", (Child.secret t o ns).toJson.at? ["stringData", "password"])] := by
    rw [databaseVariables_toJson, hc, sharedEnv]
    simp [hentry]
  rw [hvariables]
  rfl

/-! ## Pods -/

/-- Where an object has its pods, and the name of the container there that is Moodle. -/
structure PodPlace where
  component : Component
  path : List String
  container : String

/-- The web server's pods and those of the maintenance task. -/
def PodPlace.all : List PodPlace :=
  [⟨.deployment, ["spec", "template"], "moodle-php"⟩,
    ⟨.cronJob, ["spec", "jobTemplate", "spec", "template"], "moodle-cron"⟩]

def containersNamed (name : String) (pod : Json) : List Json :=
  (pod.itemsAt ["spec", "containers"]).filter fun c => (Json.ofOption (c.get? "name")).isText name

/-- A pod mounts the tenant's data, and its container of this name has what is declared for the
database. -/
structure IsServed (t : Declaration) (secret claim : Json) (name : String) (pod : Json) : Prop where
  data : MountsClaim claim pod
  database : ∃ c, containersNamed name pod = [c] ∧
    databaseVariables secret c = databaseEntries t.spec.database

theorem containersNamed_toJson (name : String) (p : PodTemplate) :
    containersNamed name p.toJson =
      (p.containers.filter fun c => c.name = name).map Container.toJson := by
  have hname : ((fun c => (Json.ofOption (Json.get? "name" c)).isText name) ∘ Container.toJson) =
      fun c => decide (c.name = name) := by
    funext c
    rw [Function.comp, c.get?_name]
    rfl
  rw [containersNamed, p.itemsAt_containers, List.filter_map, hname]

theorem PodTemplate.isServed (s : Settings) (t : Declaration) (o : Owner) (ns : Option String)
    {p : PodTemplate} (hv : p.volumes = [dataVolume t])
    (hm : ∀ c ∈ p.containers, ∀ m ∈ c.mounts, m = dataMount) {name : String} {c : Container}
    (hc : (p.containers.filter fun c => c.name = name) = [c]) (he : c.env = sharedEnv t) :
    IsServed t (Child.secret t o ns).toJson (Child.claim s t o ns).toJson name p.toJson where
  data := by
    refine PodTemplate.mountsClaim (by simp [hv]) ?_ ?_
    · rw [hv]
      intro v hmem
      obtain rfl := List.mem_singleton.1 hmem
      rfl
    · intro c hc m hmount
      obtain rfl := hm c hc m hmount
      exact ⟨dataVolume t, by rw [hv]; exact List.mem_singleton_self _, rfl⟩
  database := by
    refine ⟨c.toJson, ?_, databaseVariables_sharedEnv t o ns he⟩
    rw [containersNamed_toJson, hc]
    rfl

/-! ## Selectors -/

/-- Every selector of a tenant's objects has the labels of its web server's pods. The pods of the
maintenance task have none at all. -/
structure SelectsPods (labels : Fields) (object : Component → Json) : Prop where
  some_label : labels ≠ []
  pods : (object .deployment).at? ["spec", "template", "metadata", "labels"] = some (.obj labels)
  deployment : (object .deployment).at? ["spec", "selector", "matchLabels"] = some (.obj labels)
  service : (object .service).at? ["spec", "selector"] = some (.obj labels)
  budget : (object .budget).at? ["spec", "selector", "matchLabels"] = some (.obj labels)
  spread : ((object .deployment).itemsAt ["spec", "template", "spec",
    "topologySpreadConstraints"]).map (Json.at? ["labelSelector", "matchLabels"]) =
      [some (.obj labels), some (.obj labels)]
  others : ∃ pod, (object .cronJob).at? ["spec", "jobTemplate", "spec", "template"] = some pod ∧
    pod.at? ["metadata", "labels"] = none

theorem selectsPods (s : Settings) (t : Declaration) (o : Owner) (ns : Option String) :
    SelectsPods ((Names.labels t.identifier).map fun l => (l.1, .str l.2))
      fun p => (p.child s t o ns).toJson where
  some_label := by simp [Names.labels]
  pods := rfl
  deployment := rfl
  service := rfl
  budget := rfl
  spread := rfl
  others := ⟨_, rfl, rfl⟩

/-! ## Traffic -/

/-- Traffic for the host, encrypted or not, comes to a port of the service, and from there to a port
of the web server. -/
structure Routes (host : String) (object : Component → Json) : Prop where
  rule : ∃ rule path, (object .ingress).itemsAt ["spec", "rules"] = [rule] ∧
    rule.get? "host" = some (.str host) ∧ rule.itemsAt ["http", "paths"] = [path] ∧
    Concur (path.at? ["backend", "service", "name"]) ((object .service).at? ["metadata", "name"]) ∧
    ∃ port ∈ (object .service).itemsAt ["spec", "ports"],
      Concur (path.at? ["backend", "service", "port", "number"]) (port.get? "port")
  tls : ∃ entry, (object .ingress).itemsAt ["spec", "tls"] = [entry] ∧
    entry.itemsAt ["hosts"] = [.str host]
  target : ∀ port ∈ (object .service).itemsAt ["spec", "ports"],
    ∃ c ∈ (object .deployment).itemsAt ["spec", "template", "spec", "containers"],
      c.get? "name" = some (.str "moodle-php") ∧
      ∃ served ∈ c.itemsAt ["ports"],
        Concur (port.get? "targetPort") (served.get? "containerPort")

theorem routes (s : Settings) (t : Declaration) (o : Owner) (ns : Option String) :
    Routes t.spec.hostname fun p => (p.child s t o ns).toJson where
  rule := ⟨_, _, rfl, rfl, rfl, ⟨_, rfl, rfl⟩, _, List.mem_singleton_self _, _, rfl, rfl⟩
  tls := ⟨_, rfl, rfl⟩
  target := by
    intro port hport
    obtain rfl := List.mem_singleton.1 hport
    refine ⟨(webContainer t).toJson, List.mem_cons_self, (webContainer t).get?_name, ?_⟩
    rw [(webContainer t).itemsAt_ports]
    exact ⟨_, List.mem_singleton_self _, _, rfl, rfl⟩

/-! ## All references -/

/-- What an object of a tenant refers to, another of them has. -/
structure Refers (t : Declaration) (object : Component → Json) : Prop where
  selectors : ∃ labels, SelectsPods labels object
  pods : ∀ place ∈ PodPlace.all, ∃ pod, (object place.component).at? place.path = some pod ∧
    IsServed t (object .secret) (object .claim) place.container pod
  autoscaler : ∃ target, (object .autoscaler).at? ["spec", "scaleTargetRef"] = some target ∧
    Concur (target.get? "apiVersion") ((object .deployment).get? "apiVersion") ∧
    Concur (target.get? "kind") ((object .deployment).get? "kind") ∧
    Concur (target.get? "name") ((object .deployment).at? ["metadata", "name"])
  route : Routes t.spec.hostname object

theorem refers (s : Settings) (t : Declaration) (o : Owner) (ns : Option String) :
    Refers t fun p => (p.child s t o ns).toJson where
  selectors := ⟨_, selectsPods s t o ns⟩
  pods := by
    intro place hplace
    simp only [PodPlace.all, List.mem_cons, List.not_mem_nil, or_false] at hplace
    obtain rfl | rfl := hplace
    · refine ⟨(webTemplate s t).toJson, rfl, PodTemplate.isServed s t o ns rfl ?_ rfl rfl⟩
      intro c hc m hm
      obtain rfl | hc := List.mem_cons.1 hc
      · exact List.mem_singleton.1 hm
      · obtain rfl := List.mem_singleton.1 hc
        exact absurd hm List.not_mem_nil
    · refine ⟨(cronTemplate t).toJson, rfl, PodTemplate.isServed s t o ns rfl ?_ rfl rfl⟩
      intro c hc m hm
      obtain rfl := List.mem_singleton.1 hc
      exact List.mem_singleton.1 hm
  autoscaler := ⟨_, rfl, ⟨_, rfl, rfl⟩, ⟨_, rfl, rfl⟩, _, rfl, rfl⟩
  route := routes s t o ns

/-- A tenant with a uid has its nine objects in any namespace. All of them carry this namespace, the
tenant's labels and the tenant as their owner, and what one of them refers to, another one has. -/
theorem objects_refer (s : Settings) (t : Declaration) (ns : String) {uid : String}
    (hu : t.metadata.uid = some uid) : ∃ object : Component → Json,
      (∀ p, ∃ c : Child, p.build s t (some ns) = .ok c ∧ object p = c.toJson) ∧
      (∀ p, Belongs ns t.metadata.name ⟨t.apiVersion, t.kind, t.metadata.name, uid⟩ (object p)) ∧
      Refers t object := by
  have howner : Owner.of t = .ok ⟨t.apiVersion, t.kind, t.metadata.name, uid⟩ := by
    rw [Owner.of, hu]
  generalize Owner.mk t.apiVersion t.kind t.metadata.name uid = o at howner
  refine ⟨fun p => (p.child s t o (some ns)).toJson, fun p => ⟨_, ?_, rfl⟩, fun p => ?_,
    refers s t o (some ns)⟩
  · rw [Component.build, howner]
    rfl
  · obtain ⟨spec, hspec⟩ := p.child_eq_owned s t o (some ns)
    show Belongs ns t.metadata.name o (p.child s t o (some ns)).toJson
    rw [hspec]
    exact Child.belongs_owned t o ns _ spec

/-- The objects of an accepted declaration. -/
theorem objects_refer_plain : ∃ t,
    Declaration.parse ((plainTenant "a").setMetadata "uid" (.str "1")) = .ok t ∧
    ∃ object : Component → Json,
      (∀ p, ∃ c : Child, p.build {} t (some "moodle-a") = .ok c ∧ object p = c.toJson) ∧
      (∀ p, Belongs "moodle-a" "a" ⟨"moodle.bsu.by/v1alpha1", "MoodleTenant", "a", "1"⟩
        (object p)) ∧
      Refers t object := by
  obtain ⟨t, ht, huid, hversion, hkind, hname⟩ : ∃ t,
      Declaration.parse ((plainTenant "a").setMetadata "uid" (.str "1")) = .ok t ∧
      t.metadata.uid = some "1" ∧ t.apiVersion = "moodle.bsu.by/v1alpha1" ∧
      t.kind = "MoodleTenant" ∧ t.metadata.name = "a" := ⟨_, rfl, rfl, rfl, rfl, rfl⟩
  have hobjects := objects_refer {} t "moodle-a" huid
  rw [hversion, hkind, hname] at hobjects
  exact ⟨t, ht, hobjects⟩

end MoodleTenancy
