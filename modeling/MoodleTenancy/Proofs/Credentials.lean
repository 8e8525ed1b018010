import Mathlib.Logic.Relation
import MoodleTenancy.Proofs.Secrecy

/-!
# Credentials in secrets

The values by which a database is reached are in a tenant's secret and decide nothing. Two valid
declarations that differ in these values alone have the same objects but for the data of their
secrets, and passes on clusters that differ in them alone come to the same.

* `SameObjects`: the objects of two declarations, which differ in the data of secrets at most.
* `Disguise.ofCredentials`: a valid spec with other credentials in place of another one.
* `EqualButCredentials`: clusters that differ in credentials alone.
* `SameResult`, `SameRun`: results and runs of passes that come to the same.
* `credentials_only_in_secrets`: objects and passes do not depend on credentials.
-/

namespace MoodleTenancy
set_option autoImplicit false

/-! ## Objects -/

/-- What is made of two declarations is the same, but for the data of their secrets. -/
structure SameObjects (s : Settings) (ns : Option String) (t t' : Declaration) : Prop where
  space : Child.space s t' = Child.space s t
  needed : ∀ p : Component, p.isNeeded t' = p.isNeeded t
  others : ∀ p : Component, p ≠ .secret → p.build s t' ns = p.build s t ns
  secrets : Except.Rel (fun c c' : Child => c'.key = c.key ∧
      c'.toJson.erase "stringData" = c.toJson.erase "stringData")
    (Component.secret.build s t ns) (Component.secret.build s t' ns)

theorem sameObjects_of_concealed {t t' : Declaration} (h : t'.concealed = t.concealed)
    (s : Settings) (ns : Option String) : SameObjects s ns t t' where
  space := Child.space_of_concealed h
  needed := Component.isNeeded_of_concealed h
  others p hp := by
    rw [Component.build, Component.build, Owner.of_concealed h]
    cases Owner.of t with
    | error fault => rfl
    | ok o => exact congrArg Except.ok (Component.child_of_concealed h hp o ns)
  secrets := by
    rw [Component.build, Component.build, Owner.of_concealed h]
    cases Owner.of t with
    | error fault => exact .error fault
    | ok o =>
      refine .ok ⟨Child.key_secret_of_concealed h o ns, ?_⟩
      exact Declaration.eq_of_concealed h
        (f := fun t => (Child.secret t o ns).toJson.erase "stringData") fun _ => rfl

/-! ## Clusters -/

/-- A valid spec with other credentials in place of another one, of any tenant. -/
def Disguise.ofCredentials {spec spec' : Json} {a b : Spec}
    (ha : Validation.spec spec = .accepted a) (hb : Validation.spec spec' = .accepted b)
    (h : b.concealed = a.concealed) : Disguise where
  tenants _ := True
  spec := spec
  disguised := spec'
  Reads a b := b.concealed = a.concealed
  refl _ := rfl
  concealed := id
  reads := by
    rw [ha, hb]
    exact .accepted h

/-- One cluster has a spec where the other has a spec with other credentials, and secrets that were
made of declarations where the other has such with other credentials. -/
inductive OtherCredentials (c c' : MemoryCluster) : Prop where
  | intro {spec spec' : Json} {a b : Spec} (ha : Validation.spec spec = .accepted a)
    (hb : Validation.spec spec' = .accepted b) (h : b.concealed = a.concealed)
    (hc : (Disguise.ofCredentials ha hb h).Clusters c c')

/-- Clusters that differ in credentials alone, one spec after the other. -/
abbrev EqualButCredentials : MemoryCluster → MemoryCluster → Prop :=
  Relation.ReflTransGen OtherCredentials

/-- A tenant whose body is valid gets another valid spec that declares the same with other
credentials. -/
theorem otherCredentials_withBody {c : MemoryCluster} {key : TenantKey} {kept : StoredTenant}
    (hk : c.tenants.get? key = some kept) {spec' : Json} {t t' : Declaration}
    (ht : Declaration.parse kept.body = .ok t)
    (ht' : Declaration.parse (kept.body.set "spec" spec') = .ok t')
    (h : t'.concealed = t.concealed) :
    OtherCredentials c (c.withBody key kept (kept.body.set "spec" spec')) := by
  obtain ⟨spec, hs, ha⟩ := Validation.spec_of_read (Validation.read_eq_ok_iff.2 (parse_eq_ok.1 ht))
  obtain ⟨other, hs', hb⟩ :=
    Validation.spec_of_read (Validation.read_eq_ok_iff.2 (parse_eq_ok.1 ht'))
  obtain rfl : other = spec' := by
    cases hbody : kept.body with
    | obj fields => simpa [hbody, eq_comm] using hs'
    | _ => exact absurd hs (by simp [hbody, Json.get?])
  exact .intro ha hb (congrArg Declaration.spec h)
    (.withBody hk (.disguised hs fun _ _ _ _ => trivial) trivial)

/-! ## Passes -/

/-- Results that say the same and write the same into a status. -/
structure SameResult (op : Operator) (r r' : PassResult) : Prop where
  outcome : r'.outcome = r.outcome
  created : r'.created = r.created
  namespaceCreated : r'.namespaceCreated = r.namespaceCreated
  faultText : r'.faultText = r.faultText
  requeueAfter : r'.requeueAfter = r.requeueAfter
  url : r'.url = r.url
  patch : ∀ now, r'.patch op.settings now = r.patch op.settings now

theorem Disguise.Results.sameResult {D : Disguise} {r r' : PassResult} (h : D.Results r r')
    (op : Operator) : SameResult op r r' where
  outcome := h.outcome
  created := h.created
  namespaceCreated := h.namespaceCreated
  faultText := h.faultText
  requeueAfter := h.requeueAfter
  url := h.url
  patch now := h.patch_eq op.settings now

namespace SameResult

variable {op : Operator} {r r' r'' : PassResult}

theorem refl (op : Operator) (r : PassResult) : SameResult op r r :=
  ⟨rfl, rfl, rfl, rfl, rfl, rfl, fun _ => rfl⟩

theorem trans (h : SameResult op r r') (h' : SameResult op r' r'') : SameResult op r r'' where
  outcome := h'.outcome.trans h.outcome
  created := h'.created.trans h.created
  namespaceCreated := h'.namespaceCreated.trans h.namespaceCreated
  faultText := h'.faultText.trans h.faultText
  requeueAfter := h'.requeueAfter.trans h.requeueAfter
  url := h'.url.trans h.url
  patch now := (h'.patch now).trans (h.patch now)

end SameResult

/-- Runs of a pass that end alike, call the same, make objects of the same keys, log the same and
write the same. -/
structure SameRun (op : Operator) (out out' : Except Fault PassResult × World MemoryCluster) :
    Prop where
  answer : Except.Rel (SameResult op) out.1 out'.1
  calls : out'.2.cluster.calls = out.2.cluster.calls
  present : ∀ k, (out'.2.cluster.objects.get? k).isSome = (out.2.cluster.objects.get? k).isSome
  patches : out'.2.cluster.patches = out.2.cluster.patches
  journal : out'.2.journal = out.2.journal

theorem Except.Rel.trans {α : Type} {R : α → α → Prop} {e e' e'' : Except Fault α}
    (hR : ∀ {a b c}, R a b → R b c → R a c) (h : Except.Rel R e e') (h' : Except.Rel R e' e'') :
    Except.Rel R e e'' := by
  cases h with
  | error fault => exact h'
  | ok ha =>
    cases h' with
    | ok hb => exact .ok (hR ha hb)

namespace SameRun

variable {op : Operator} {out out' out'' : Except Fault PassResult × World MemoryCluster}

theorem refl (op : Operator) (out : Except Fault PassResult × World MemoryCluster) :
    SameRun op out out where
  answer := by
    cases out.1 with
    | ok r => exact .ok (.refl op r)
    | error fault => exact .error fault
  calls := rfl
  present _ := rfl
  patches := rfl
  journal := rfl

theorem trans (h : SameRun op out out') (h' : SameRun op out' out'') : SameRun op out out'' where
  answer := h.answer.trans SameResult.trans h'.answer
  calls := h'.calls.trans h.calls
  present k := (h'.present k).trans (h.present k)
  patches := h'.patches.trans h.patches
  journal := h'.journal.trans h.journal

end SameRun

/-- One other spec changes nothing about a run, and the clusters differ as before after it. -/
theorem sameRun_of_otherCredentials (op : Operator) {job : Job MemoryCluster PassResult}
    (hjob : ∀ D : Disguise, Task.Couples D.Worlds D.Results job job) {w w' : World MemoryCluster}
    (hc : OtherCredentials w.cluster w'.cluster) (hj : w'.journal = w.journal) :
    SameRun op (job.run w) (job.run w') ∧
      OtherCredentials (job.run w).2.cluster (job.run w').2.cluster := by
  obtain ⟨ha, hb, h, hc⟩ := hc
  obtain ⟨answer, cluster, journal⟩ := hjob _ w w' ⟨hc, hj⟩
  refine ⟨?_, .intro ha hb h cluster⟩
  exact ⟨answer.mono fun hr => hr.sameResult op, cluster.calls,
    fun k => Disguise.isSome_of_rel (cluster.objects k), cluster.patches, journal⟩

/-- The same of any number of other specs, one after the other. -/
theorem sameRun_of_equalButCredentials {op : Operator} {job : Job MemoryCluster PassResult}
    (hjob : ∀ D : Disguise, Task.Couples D.Worlds D.Results job job) {w : World MemoryCluster}
    {c : MemoryCluster} (hc : EqualButCredentials w.cluster c) :
    SameRun op (job.run w) (job.run { w with cluster := c }) ∧
      EqualButCredentials (job.run w).2.cluster (job.run { w with cluster := c }).2.cluster := by
  induction hc with
  | refl => exact ⟨.refl op _, .refl⟩
  | @tail b c _ hstep ih =>
    -- The world in between has the same journal, so only the cluster differs at this step too.
    obtain ⟨run, clusters⟩ := ih
    have step : OtherCredentials ({ w with cluster := b } : World MemoryCluster).cluster
        ({ w with cluster := c } : World MemoryCluster).cluster := hstep
    obtain ⟨run', cluster⟩ := sameRun_of_otherCredentials op hjob step rfl
    exact ⟨run.trans run', clusters.tail cluster⟩

theorem pass_couples {D : Disguise} (op : Operator) (name : Json) :
    Task.Couples D.Worlds D.Results (op.pass name) (op.pass name) := by
  intro w w' hw
  obtain ⟨results, worlds⟩ := Disguise.reconcile_related op name hw
  exact ⟨.ok results, worlds⟩

/-! ## Guards -/

/-- Under every key there is the same name with a body at the same stage, or nothing. -/
def SameStages (op : Operator) (c c' : MemoryCluster) : Prop :=
  ∀ key, SameTenant (fun b b' => op.stage b' = op.stage b) (c.tenants.get? key)
    (c'.tenants.get? key)

theorem SameStages.trans {op : Operator} {c d e : MemoryCluster} (h : SameStages op c d)
    (h' : SameStages op d e) : SameStages op c e := by
  intro key
  have first := h key
  have second := h' key
  generalize c.tenants.get? key = t at first ⊢
  generalize d.tenants.get? key = u at first second
  generalize e.tenants.get? key = v at second ⊢
  cases first with
  | none => exact second
  | some ht =>
    cases second with
    | some hu => exact .some ⟨hu.1.trans ht.1, hu.2.trans ht.2⟩

theorem OtherCredentials.sameStages {c c' : MemoryCluster} (h : OtherCredentials c c')
    (op : Operator) : SameStages op c c' := by
  obtain ⟨ha, hb, h, hc⟩ := h
  intro key
  have bodies := hc.tenants key
  generalize c.tenants.get? key = t at bodies ⊢
  generalize c'.tenants.get? key = t' at bodies ⊢
  cases bodies with
  | none => exact .none
  | some kept => exact .some ⟨kept.1, kept.2.stage_eq op⟩

theorem EqualButCredentials.sameStages {c c' : MemoryCluster} (h : EqualButCredentials c c')
    (op : Operator) : SameStages op c c' := by
  induction h with
  | refl => exact fun key => .refl (fun b => (rfl : op.stage b = op.stage b)) _
  | tail _ hstep ih => exact ih.trans (hstep.sameStages op)

/-! ## Credentials decide nothing -/

/-- Two declarations that differ in credentials alone have the same objects, but for the data of
their secrets. If a tenant has the one declaration where it has the other on another cluster, the
clusters differ in credentials alone. On such clusters tenants are at the same stages, passes come
to the same, with their reports and without, and they leave such clusters. -/
theorem credentials_only_in_secrets :
    (∀ t t' : Declaration, t'.concealed = t.concealed → ∀ s ns, SameObjects s ns t t') ∧
    (∀ (c : MemoryCluster) key kept spec' t t', c.tenants.get? key = some kept →
      Declaration.parse kept.body = .ok t →
      Declaration.parse (kept.body.set "spec" spec') = .ok t' → t'.concealed = t.concealed →
      EqualButCredentials c (c.withBody key kept (kept.body.set "spec" spec'))) ∧
    ∀ (op : Operator) (now : Time.Instant) (name : Json) (w : World MemoryCluster)
      (c : MemoryCluster), EqualButCredentials w.cluster c → SameStages op w.cluster c ∧
        ∀ job ∈ [op.pass name, op.attend now name],
          SameRun op (job.run w) (job.run { w with cluster := c }) ∧
          EqualButCredentials (job.run w).2.cluster (job.run { w with cluster := c }).2.cluster := by
  refine ⟨fun t t' h s ns => sameObjects_of_concealed h s ns,
    fun c key kept spec' t t' hk ht ht' h => .single (otherCredentials_withBody hk ht ht' h),
    fun op now name w c hc =>
      ⟨hc.sameStages op, fun job hjob => sameRun_of_equalButCredentials (fun D => ?_) hc⟩⟩
  obtain rfl | rfl : job = op.pass name ∨ job = op.attend now name := by simpa using hjob
  · exact pass_couples op name
  · exact Disguise.attend_couples op now name

/-- The spec of a plain tenant with other credentials. -/
def otherSpec : Json :=
  .obj [("hostname", .str "a.example"), ("image", .str "moodle"),
    ("storage", .obj [("size", .str "1Gi")]),
    ("databaseRef", .obj [("host", .str "elsewhere"), ("adminSecret", .str "db-admin"),
      ("name", .str "moodle"), ("user", .str "root"), ("password", .str "q")])]

/-- The first pass for a plain tenant, with its own credentials and with others. -/
theorem credentials_only_in_secrets_plain :
    let op : Operator := {}
    let w : World MemoryCluster := { cluster := .withPlainTenant "a" }
    ∃ kept, w.cluster.tenants.get? (.text "a") = some kept ∧
      let c := w.cluster.withBody (.text "a") kept (kept.body.set "spec" otherSpec)
      SameRun op ((op.pass (.str "a")).run w) ((op.pass (.str "a")).run { w with cluster := c }) := by
  intro op w
  have found : w.cluster.tenants.get? (.text "a") = some _ := rfl
  obtain ⟨-, clusters, runs⟩ := credentials_only_in_secrets
  have equal := clusters w.cluster _ _ otherSpec _ _ found rfl rfl rfl
  exact ⟨_, found, ((runs op 0 (.str "a") w _ equal).2 _ List.mem_cons_self).1⟩

end MoodleTenancy
