import MoodleTenancy.Proofs.Scaling

/-!
# Declared amounts in a cluster

The size of the storage and the amounts of resources come as text or as integers, and are read by
different readers. Whatever a valid body has of them is in the objects as it stands there, or as its
numeral.

* `Json.fieldsAt`: the fields of an object behind some keys.
* `Shows`, `Carries`: what becomes of one amount, and of a map of them.
* `size_of_read`, `entries_of_read`: what the parts of a valid body are read as.
* `amounts_carried`: what the claim and the web server have, and when all other sizes are refused.
* `read_flagSizedTenant`: a truth value goes for a size.
-/

namespace MoodleTenancy
set_option autoImplicit false

open Validation

/-- The fields of the object behind some keys; none if there is no object. -/
def Json.fieldsAt (path : List String) (j : Json) : Fields :=
  match j.at? path with
  | some (.obj fields) => fields
  | _ => []

/-! ## Amounts and what shows them -/

/-- Text is shown as it is, and an integer as its numeral. -/
structure Shows (declared shown : Json) : Prop where
  text : ∀ s, declared = .str s → shown = .str s
  integer : ∀ n, declared = .int n → shown = .str (toString n)

/-- A map of amounts is shown entry by entry under the same keys, and an empty one not at all. -/
def Carries (declared : Fields) (shown : Option Json) : Prop :=
  (declared = [] ∧ shown = none) ∨
    (declared ≠ [] ∧ ∃ fields, shown = some (.obj fields) ∧
      List.Forall₂ (fun d e => e.1 = d.1 ∧ Shows d.2 e.2) declared fields)

theorem Grammar.Amount.shows {j : Json} {q : Quantity} (h : Grammar.Amount j q) :
    Shows j (.str q.toString) := by
  cases h with
  | text s => exact ⟨fun _ h => h, nofun⟩
  | whole hj h =>
    refine ⟨fun s hs => (hj s hs).elim, ?_⟩
    rintro n rfl
    cases h
    rfl

theorem carries_amounts {declared : Fields} {qs : List (String × Quantity)}
    (h : entries quantity declared = .accepted qs) :
    Carries declared (amounts (Quantity.texts qs)) := by
  have read := (Grammar.entries_reads Grammar.quantity_reads).1 h
  have shown : List.Forall₂ (fun d e => e.1 = d.1 ∧ Shows d.2 e.2) declared
      ((Quantity.texts qs).map fun q => (Key.text q.1, Json.str q.2)) := by
    rw [Quantity.texts, List.map_map, List.forall₂_map_right_iff]
    exact read.imp fun d q h => ⟨h.1.symm, h.2.shows⟩
  -- An empty map gives no field, which is the one case apart.
  cases read with
  | nil => exact .inl ⟨rfl, rfl⟩
  | cons => exact .inr ⟨List.cons_ne_nil _ _, _, rfl, shown⟩

/-- Text, integers and truth values go for a size, and nothing else does. -/
theorem size_eq_accepted {j : Json} {s : String} (h : size j = .accepted s) :
    Shows j (.str s) ∧
      ((∃ text, j = .str text) ∨ (∃ n, j = .int n) ∨
        ∃ b, j = .bool b ∧ s = if b then "True" else "False") := by
  cases j with
  | str text =>
    have filled : nonEmptyText (.str text) = .accepted s := h
    obtain ⟨hj, -⟩ := nonEmptyText_eq_accepted.1 filled
    exact ⟨⟨fun _ ht => hj.symm.trans ht, nofun⟩, .inl ⟨text, rfl⟩⟩
  | int n =>
    cases h
    refine ⟨⟨nofun, ?_⟩, .inr (.inl ⟨n, rfl⟩)⟩
    rintro _ ⟨⟩
    rfl
  | bool b =>
    cases h
    exact ⟨⟨nofun, nofun⟩, .inr (.inr ⟨b, rfl, rfl⟩)⟩
  | _ => cases h

/-! ## Parts of valid bodies -/

theorem specFields_of_read {j : Json} {t : Declaration} (h : Declaration.read j = .ok t) :
    ∃ o, j.get? "spec" = some (.obj o) ∧ specFields o = .accepted t.spec := by
  obtain ⟨v, hv, hspec⟩ := spec_of_read h
  obtain ⟨o, rfl, ho⟩ := model_eq_accepted.1 hspec
  exact ⟨o, hv, ho⟩

theorem size_of_read {j : Json} {t : Declaration} (h : Declaration.read j = .ok t) :
    ∃ v, j.at? ["spec", "storage", "size"] = some v ∧ size v = .accepted t.spec.storage.size := by
  obtain ⟨o, ho, hspec⟩ := specFields_of_read h
  obtain ⟨-, -, -, -, hs, -⟩ := specFields_eq_accepted.1 hspec
  obtain ⟨storage, hstorage, hs⟩ := Field.required_eq_accepted.1 hs
  obtain ⟨block, rfl, hsize, -⟩ := storage_eq_accepted.1 hs
  obtain ⟨v, hv, hsize⟩ := Field.required_eq_accepted.1 hsize
  rw [Field.value?_self] at hstorage hv
  refine ⟨v, ?_, hsize⟩
  simp only [Json.at?, ho, hstorage, hv, Option.bind_some, Json.get?_obj]

/-- A map that may be absent is read as the entries that there are. -/
theorem entries_of_optional {wire : String} {o : Fields} {qs : List (String × Quantity)}
    (h : Field.optional ⟨wire, wire⟩ [] (mapOf quantity) o = .accepted qs) :
    entries quantity ((Json.obj o).fieldsAt [wire]) = .accepted qs := by
  rw [Field.optional_eq_accepted, Field.value?_self] at h
  obtain ⟨hnone, rfl⟩ | ⟨v, hv, h⟩ := h
  · simp [Json.fieldsAt, Json.at?, hnone, entries]
  · cases v with
    | obj fields =>
      simp only [Json.fieldsAt, Json.at?, Json.get?_obj, hv, Option.bind_some]
      exact h
    | _ => cases h

theorem entries_of_read {j : Json} {t : Declaration} (h : Declaration.read j = .ok t) :
    entries quantity (j.fieldsAt ["spec", "resources", "requests"]) =
        .accepted t.spec.resources.requests ∧
      entries quantity (j.fieldsAt ["spec", "resources", "limits"]) =
        .accepted t.spec.resources.limits := by
  obtain ⟨o, ho, hspec⟩ := specFields_of_read h
  obtain ⟨-, -, hr, -⟩ := specFields_eq_accepted.1 hspec
  have through : ∀ key, j.fieldsAt ["spec", "resources", key] =
      (Json.ofOption (Fields.get? "resources" o)).fieldsAt [key] := by
    intro key
    simp only [Json.fieldsAt, Json.at?, ho, Option.bind_some, Json.get?_obj]
    cases Fields.get? "resources" o <;> rfl
  rw [through, through]
  rw [Field.optional_eq_accepted, Field.value?_self] at hr
  obtain ⟨hnone, hr⟩ | ⟨v, hv, hr⟩ := hr
  · rw [hnone, hr]
    exact ⟨rfl, rfl⟩
  · obtain ⟨block, rfl, hrequests, hlimits⟩ := resources_eq_accepted.1 hr
    rw [hv]
    exact ⟨entries_of_optional hrequests, entries_of_optional hlimits⟩

/-! ## Objects -/

theorem webContainer_resources (t : Declaration) :
    (webContainer t).toJson.at? ["resources", "requests"] =
        amounts (Quantity.texts t.spec.resources.requests) ∧
      (webContainer t).toJson.at? ["resources", "limits"] =
        amounts (Quantity.texts t.spec.resources.limits) := by
  have given : (webContainer t).toJson.get? "resources" =
      t.spec.resources.bounds.map ResourceBounds.toJson := by
    simp [webContainer, Container.toJson, Json.ofFields, Json.get?_presentFields_cons,
      Json.get?_presentFields_nil]
  simp only [Json.at?, given, Resources.bounds]
  obtain ⟨requests, limits⟩ := t.spec.resources
  cases requests <;> cases limits <;>
    simp [ResourceBounds.toJson, Json.ofFields, Json.get?_presentFields_cons,
      Json.get?_presentFields_nil, Quantity.texts, amounts]

theorem containersNamed_web (s : Settings) (t : Declaration) (o : Owner) (ns : Option String) :
    ∃ pod, (Child.deployment s t o ns).toJson.at? ["spec", "template"] = some pod ∧
      containersNamed "moodle-php" pod = [(webContainer t).toJson] := by
  refine ⟨(webTemplate s t).toJson, rfl, ?_⟩
  rw [containersNamed_toJson]
  rfl

/-! ## Declared amounts -/

/-- What the claim and the web server of a tenant have of the amounts in its body. -/
structure ShowsAmounts (body claim deployment : Json) : Prop where
  size : ∃ declared shown, body.at? ["spec", "storage", "size"] = some declared ∧
    claim.at? ["spec", "resources", "requests", "storage"] = some shown ∧ Shows declared shown ∧
    ∀ b, declared = .bool b → shown = .str (if b then "True" else "False")
  resources : ∃ pod web, deployment.at? ["spec", "template"] = some pod ∧
    containersNamed "moodle-php" pod = [web] ∧
    Carries (body.fieldsAt ["spec", "resources", "requests"]) (web.at? ["resources", "requests"]) ∧
    Carries (body.fieldsAt ["spec", "resources", "limits"]) (web.at? ["resources", "limits"])

theorem showsAmounts_of_read {j : Json} {t : Declaration} (h : Declaration.read j = .ok t)
    (s : Settings) (o : Owner) (ns : Option String) :
    ShowsAmounts j (Child.claim s t o ns).toJson (Child.deployment s t o ns).toJson where
  size := by
    obtain ⟨declared, hdeclared, hsize⟩ := size_of_read h
    obtain ⟨shows, kinds⟩ := size_eq_accepted hsize
    refine ⟨declared, .str t.spec.storage.size, hdeclared, rfl, shows, ?_⟩
    rintro b rfl
    obtain ⟨_, ⟨⟩⟩ | ⟨_, ⟨⟩⟩ | ⟨_, ⟨⟩, hword⟩ := kinds
    rw [hword]
  resources := by
    obtain ⟨pod, hpod, hweb⟩ := containersNamed_web s t o ns
    obtain ⟨requests, limits⟩ := webContainer_resources t
    obtain ⟨hrequests, hlimits⟩ := entries_of_read h
    refine ⟨pod, _, hpod, hweb, ?_, ?_⟩
    · rw [requests]
      exact carries_amounts hrequests
    · rw [limits]
      exact carries_amounts hlimits

/-- The amounts in a valid body are in the tenant's objects as they stand there, or as their
numerals. Sizes that are no text and no integer are refused, if truth values are. -/
theorem amounts_carried (body : Json) :
    (∀ t uid, Declaration.read body = .ok t →
      body.at? ["metadata", "uid"] = some (.str uid) → ∀ s ns, ∃ claim deployment : Child,
        Component.claim.build s t ns = .ok claim ∧
        Component.deployment.build s t ns = .ok deployment ∧
        ShowsAmounts body claim.toJson deployment.toJson) ∧
    ((∀ size, body.at? ["spec", "storage", "size"] = some size →
        (∀ s, size ≠ .str s) → (∀ n, size ≠ .int n) →
        ∃ report, Declaration.read body = .error report) ↔
      ∀ b, body.at? ["spec", "storage", "size"] = some (.bool b) →
        ∃ report, Declaration.read body = .error report) := by
  refine ⟨fun t uid h huid s ns => ?_, fun refused b hb => refused _ hb nofun nofun,
    fun flag size hsize text integer => ?_⟩
  · have howner : Owner.of t = .ok ⟨t.apiVersion, t.kind, t.metadata.name, uid⟩ := by
      rw [Owner.of, uid_of_read h huid]
    exact ⟨_, _, by rw [Component.build, howner]; rfl, by rw [Component.build, howner]; rfl,
      showsAmounts_of_read h s _ ns⟩
  · cases h : Declaration.read body with
    | error report => exact ⟨report, rfl⟩
    | ok t =>
      -- What was accepted as a size is text, an integer or a truth value.
      obtain ⟨v, hv, haccepted⟩ := size_of_read h
      obtain rfl := Option.some.inj (hsize.symm.trans hv)
      obtain ⟨-, ⟨s, hs⟩ | ⟨n, hn⟩ | ⟨b, rfl, -⟩⟩ := size_eq_accepted haccepted
      · exact (text s hs).elim
      · exact (integer n hn).elim
      · rw [← h]
        exact flag b hsize

/-- A plain tenant with a uid, a size of its own and some resources. -/
def sizedTenant (size : Json) (requests : Fields) : Json :=
  let body := (plainTenant "a").setMetadata "uid" (.str "1")
  body.set "spec" (((Json.ofOption (body.get? "spec")).set "storage" (.obj [("size", size)])).set
    "resources" (.obj [("requests", .obj requests)]))

/-- Ten gigabytes as an integer, and two processors beside half a gigabyte of memory; then no size
at all. -/
theorem amounts_carried_sized :
    (∃ t claim deployment, Declaration.read (sizedTenant (.int 10000000000)
        [("cpu", .int 2), ("memory", .str "512Mi")]) = .ok t ∧
      Component.claim.build {} t (some "moodle-a") = .ok claim ∧
      Component.deployment.build {} t (some "moodle-a") = .ok deployment ∧
      ShowsAmounts (sizedTenant (.int 10000000000) [("cpu", .int 2), ("memory", .str "512Mi")])
        claim.toJson deployment.toJson) ∧
    ∃ report, Declaration.read (sizedTenant .null []) = .error report := by
  constructor
  · obtain ⟨shown, -⟩ :=
      amounts_carried (sizedTenant (.int 10000000000) [("cpu", .int 2), ("memory", .str "512Mi")])
    obtain ⟨claim, deployment, hclaim, hdeployment, shows⟩ := shown _ "1" rfl rfl {}
      (some "moodle-a")
    exact ⟨_, claim, deployment, rfl, hclaim, hdeployment, shows⟩
  · obtain ⟨-, refused⟩ := amounts_carried (sizedTenant .null [])
    have size : (sizedTenant .null []).at? ["spec", "storage", "size"] = some .null := rfl
    refine refused.2 (fun b hb => ?_) .null size nofun nofun
    rw [size] at hb
    exact nomatch hb

/-- A truth value goes for a size, and the claim asks for its word. -/
theorem read_flagSizedTenant : ∃ t claim,
    (sizedTenant (.bool true) []).at? ["spec", "storage", "size"] = some (.bool true) ∧
    Declaration.read (sizedTenant (.bool true) []) = .ok t ∧
    Component.claim.build {} t (some "moodle-a") = .ok claim ∧
    claim.toJson.at? ["spec", "resources", "requests", "storage"] = some (.str "True") :=
  ⟨_, _, rfl, rfl, rfl, rfl⟩

end MoodleTenancy
