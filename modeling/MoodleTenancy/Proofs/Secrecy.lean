import MoodleTenancy.Proofs.DisguisedPasses
import MoodleTenancy.Proofs.Isolation

/-!
# The secrecy of passwords

The password of a database reaches a tenant's secret and nothing else, unless a report quotes it: an
object that lacks a required field is shown as a whole, up to the length of an excerpt.

* `Spec.withPassword`, `Declaration.withPassword`: what is read with another password.
* `refWithPassword`, `specWithPassword`: what is stored with another password.
* `Quotes`: a report on an object shows the object.
* `HidesPassword`: a report that shows an object does not show which of two passwords is in it.
* `Disguise.ofPassword`: a spec with the one password in place of one with the other.
* `SameReports`: runs that cannot be told apart by what they report.
* `reports_hide_password`: handlers on clusters that differ in a password.
* `report_quotes_password`: a report that shows one.
-/

namespace MoodleTenancy
set_option autoImplicit false

open Validation

/-! ## Another password -/

def Spec.withPassword (s : Spec) (p : String) : Spec :=
  { s with database := { s.database with password := p } }

def Declaration.withPassword (t : Declaration) (p : String) : Declaration :=
  { t with spec := t.spec.withPassword p }

/-- A database reference with another password. -/
def refWithPassword (p : String) (ref : Fields) : Fields := Fields.set "password" (.str p) ref

/-- A spec with another password in its database reference. -/
def specWithPassword (p : String) (ref spec : Fields) : Fields :=
  Fields.set "databaseRef" (.obj (refWithPassword p ref)) spec

/-! ## Quotations -/

/-- The required fields of a database reference beside its password. -/
def refFields : List Validation.Field :=
  [⟨"host", "host"⟩, ⟨"adminSecret", "admin_secret"⟩, ⟨"name", "name"⟩, ⟨"user", "user"⟩]

/-- The required fields of a spec beside its database reference. -/
def specFieldsBeside : List Validation.Field :=
  [⟨"hostname", "hostname"⟩, ⟨"image", "image"⟩, ⟨"storage", "storage"⟩]

/-- A report on the object shows it: one of the required fields is missing. -/
def Quotes (required : List Validation.Field) (fields : Fields) : Prop :=
  ∃ f ∈ required, f.find? fields = none

/-- A report that shows the database reference, or the spec around it, shows the same with another
password. -/
structure HidesPassword (p : String) (ref spec : Fields) : Prop where
  inRef : Quotes refFields ref →
    (Json.obj (refWithPassword p ref)).excerpt = (Json.obj ref).excerpt
  inSpec : Quotes specFieldsBeside spec →
    (Json.obj (specWithPassword p ref spec)).excerpt = (Json.obj spec).excerpt

/-- No report shows an object in which all is given that is required. -/
theorem HidesPassword.of_complete {ref spec : Fields} (p : String)
    (href : ∀ f ∈ refFields, (f.find? ref).isSome = true)
    (hspec : ∀ f ∈ specFieldsBeside, (f.find? spec).isSome = true) : HidesPassword p ref spec := by
  constructor
  · rintro ⟨f, hf, hnone⟩
    exact absurd (href f hf) (by simp [hnone])
  · rintro ⟨f, hf, hnone⟩
    exact absurd (hspec f hf) (by simp [hnone])

/-! ## Readings -/

section Readings

variable {p q : String} {ref spec : Fields}

theorem database_withPassword (hp : Fields.get? "password" ref = some (.str p)) (hne : p ≠ "")
    (hq : q ≠ "") (h : Quotes refFields ref →
      (Json.obj (refWithPassword q ref)).excerpt = (Json.obj ref).excerpt) :
    Checked.Rel (fun a b => b = { a with password := q }) (database (.obj ref))
      (database (.obj (refWithPassword q ref))) := by
  have hread : ∀ f ∈ refFields, "password" ≠ f.wire → "password" ≠ f.alternative →
      Checked.Rel Eq (f.required nonEmptyText ref)
        (f.required nonEmptyText (refWithPassword q ref)) :=
    fun f hf hw ha => Field.required_set_rel hw ha _ fun hnone => h ⟨f, hf, hnone⟩
  have hpassword : Checked.Rel (fun _ b => b = q) (nonEmptyText (.str p))
      (nonEmptyText (.str q)) := by
    rw [nonEmptyText_eq_accepted.2 ⟨rfl, hne⟩, nonEmptyText_eq_accepted.2 ⟨rfl, hq⟩]
    exact .accepted rfl
  refine .and (.and (.and (.and (.map ?_ (hread _ ?_ ?_ ?_)) (hread _ ?_ ?_ ?_))
    (hread _ ?_ ?_ ?_)) (hread _ ?_ ?_ ?_)) (Field.required_set_self_rel rfl hp hpassword)
  · rintro host _ rfl admin _ rfl name _ rfl user _ rfl a _ rfl
    rfl
  all_goals simp [refFields]

theorem spec_withPassword (hr : Fields.get? "databaseRef" spec = some (.obj ref))
    (hp : Fields.get? "password" ref = some (.str p)) (hne : p ≠ "") (hq : q ≠ "")
    (h : HidesPassword q ref spec) :
    Checked.Rel (fun a b => b = a.withPassword q) (Validation.spec (.obj spec))
      (Validation.spec (.obj (specWithPassword q ref spec))) := by
  have hrequired : ∀ f ∈ specFieldsBeside, "databaseRef" ≠ f.wire → "databaseRef" ≠ f.alternative →
      ∀ {α : Type} (r : Reader α), Checked.Rel Eq (f.required r spec)
        (f.required r (specWithPassword q ref spec)) :=
    fun f hf hw ha _ r => Field.required_set_rel hw ha r fun hnone => h.inSpec ⟨f, hf, hnone⟩
  have hoptional : ∀ f : Validation.Field, "databaseRef" ≠ f.wire → "databaseRef" ≠ f.alternative →
      ∀ {α : Type} (default : α) (r : Reader α), Checked.Rel Eq (f.optional default r spec)
        (f.optional default r (specWithPassword q ref spec)) :=
    fun f hw ha _ default r => Field.optional_set_rel hw ha default r _ spec
  refine .and (.and (.and (.and (.and (.and (.and (.map ?_ (hrequired _ ?_ ?_ ?_ _))
    (hrequired _ ?_ ?_ ?_ _)) (hoptional _ ?_ ?_ _ _)) (hoptional _ ?_ ?_ _ _))
    (hrequired _ ?_ ?_ ?_ _)) (Field.required_set_self_rel rfl hr
      (database_withPassword hp hne hq h.inRef))) (hoptional _ ?_ ?_ _ _)) (hoptional _ ?_ ?_ _ _)
  · rintro hostname _ rfl image _ rfl resources _ rfl hpa _ rfl storage _ rfl db _ rfl php _ rfl
      memcached _ rfl
    rfl
  all_goals simp [specFieldsBeside]

end Readings

/-! ## The disguise -/

/-- A spec with another password in place of one that has a password. -/
def Disguise.ofPassword (tenants : TenantKey → Prop) {p q : String} {ref spec : Fields}
    (hr : Fields.get? "databaseRef" spec = some (.obj ref))
    (hp : Fields.get? "password" ref = some (.str p)) (hne : p ≠ "") (hq : q ≠ "")
    (h : HidesPassword q ref spec) : Disguise where
  tenants := tenants
  spec := .obj spec
  disguised := .obj (specWithPassword q ref spec)
  Reads a b := b = a ∨ b = a.withPassword q
  refl _ := .inl rfl
  concealed := by
    rintro a _ (rfl | rfl)
    · rfl
    · rfl
  reads := (spec_withPassword hr hp hne hq h).mono .inr

/-! ## Handlers -/

/-- The cluster with another body of a tenant. -/
def MemoryCluster.withBody (c : MemoryCluster) (key : TenantKey) (kept : StoredTenant)
    (body : Json) : MemoryCluster :=
  { c with tenants := c.tenants.insert key { kept with body := body } }

/-- Two runs that nobody can tell apart by what they answer, log, write and ask for. -/
structure SameReports (out out' : Except Fault Unit × World MemoryCluster) : Prop where
  answer : out'.1 = out.1
  journal : out'.2.journal = out.2.journal
  patches : out'.2.cluster.patches = out.2.cluster.patches
  calls : out'.2.cluster.calls = out.2.cluster.calls

theorem Disguise.Clusters.withBody {D : Disguise} {c : MemoryCluster} {key : TenantKey}
    {kept : StoredTenant} (hk : c.tenants.get? key = some kept) {body : Json}
    (hb : D.Bodies kept.body body) (hkey : D.tenants key) :
    D.Clusters c (c.withBody key kept body) where
  failures := rfl
  calls := rfl
  patches := rfl
  nextVersion := rfl
  objects k := by
    rw [MemoryCluster.withBody]
    cases c.objects.get? k with
    | none => exact .none
    | some m => exact .some (.same m)
  tenants k := by
    rw [MemoryCluster.withBody, Table.get?_insert]
    split
    · rename_i heq
      rw [← heq, hk]
      exact .some ⟨rfl, hb⟩
    · exact .refl .same _
  others {k} hd := by
    rw [MemoryCluster.withBody, Table.get?_insert_ne]
    rintro rfl
    exact hd hkey

/-- A handler for which the password of a tenant is another one answers, logs, writes and asks for
the same, as long as no report shows the password. What it leaves differs in the tenant's own spec
and in the secret made for it. -/
theorem reports_hide_password (op : Operator) (now : Time.Instant)
    {job : Job MemoryCluster Unit} (hjob : op.Handles now job) {w : World MemoryCluster}
    {key : TenantKey} {kept : StoredTenant} (hk : w.cluster.tenants.get? key = some kept)
    {ref spec : Fields} (hs : kept.body.get? "spec" = some (.obj spec))
    (hr : Fields.get? "databaseRef" spec = some (.obj ref)) {p q : String}
    (hp : Fields.get? "password" ref = some (.str p)) (hne : p ≠ "") (hq : q ≠ "")
    (hides : HidesPassword q ref spec) :
    let body := kept.body.set "spec" (.obj (specWithPassword q ref spec))
    let w' : World MemoryCluster := { w with cluster := w.cluster.withBody key kept body }
    let c := (job.run w).2.cluster
    let c' := (job.run w').2.cluster
    SameReports (job.run w) (job.run w') ∧
    (∀ k, c'.objects.get? k = c.objects.get? k ∨ ∃ t o ns,
      c.objects.get? k = some (Child.secret t o ns).manifest ∧
      c'.objects.get? k = some (Child.secret (t.withPassword q) o ns).manifest) ∧
    (∀ k, SameTenant (fun b b' => b' = b ∨ b.get? "spec" = some (.obj spec) ∧
      b' = b.set "spec" (.obj (specWithPassword q ref spec)))
        (c.tenants.get? k) (c'.tenants.get? k)) ∧
    (∀ k, k ≠ key → (∀ name, kept.body.metadatum "name" = some name → TenantKey.of name ≠ .ok k) →
      c'.tenants.get? k = c.tenants.get? k) := by
  intro body w' c c'
  let D := Disguise.ofPassword (fun k => k = key ∨
    ∃ name, kept.body.metadatum "name" = some name ∧ TenantKey.of name = .ok k) hr hp hne hq hides
  have hbody : D.Bodies kept.body body := .disguised hs fun name k hn hk => .inr ⟨name, hn, hk⟩
  have hstart : World.Rel D.Clusters w w' := ⟨.withBody hk hbody (.inl rfl), rfl⟩
  obtain ⟨hanswer, hcluster, hjournal⟩ := Disguise.handles_couples hjob w w' hstart
  refine ⟨⟨hanswer.eq, hjournal, hcluster.patches, hcluster.calls⟩, ?_, ?_, ?_⟩
  · intro k
    have hobject : Option.Rel D.Manifests (c.objects.get? k) (c'.objects.get? k) :=
      hcluster.objects k
    generalize c.objects.get? k = o at hobject ⊢
    generalize c'.objects.get? k = o' at hobject ⊢
    cases hobject with
    | none => exact .inl rfl
    | some hm =>
      cases hm with
      | same m => exact .inl rfl
      | @secret t t' ht owner ns =>
        obtain ⟨houter, hspec | hspec⟩ := ht
        · rw [houter, hspec]
          exact .inl rfl
        · rw [houter, hspec]
          exact .inr ⟨t, owner, ns, rfl, rfl⟩
  · intro k
    have htenant : SameTenant D.Bodies (c.tenants.get? k) (c'.tenants.get? k) :=
      hcluster.tenants k
    generalize c.tenants.get? k = o at htenant ⊢
    generalize c'.tenants.get? k = o' at htenant ⊢
    cases htenant with
    | none => exact .none
    | some hb => exact .some ⟨hb.1, hb.2.eq_or_set⟩
  · intro k hkey hname
    refine hcluster.others ?_
    rintro (rfl | ⟨name, hn, hk⟩)
    · exact hkey rfl
    · exact hname name hn hk

/-- The first pass for a plain tenant, with either password. -/
theorem reports_hide_password_plain :
    let op : Operator := {}
    let w : World MemoryCluster := { cluster := .withPlainTenant "a" }
    ∃ kept ref spec, w.cluster.tenants.get? (.text "a") = some kept ∧
      kept.body.get? "spec" = some (.obj spec) ∧
      Fields.get? "databaseRef" spec = some (.obj ref) ∧ HidesPassword "q" ref spec ∧
      SameReports ((op.onChange 0 (.str "a") 0).run w) ((op.onChange 0 (.str "a") 0).run { w with
        cluster := w.cluster.withBody (.text "a") kept
          (kept.body.set "spec" (.obj (specWithPassword "q" ref spec))) }) := by
  intro op w
  refine ⟨_, _, _, rfl, rfl, rfl, .of_complete "q" (by decide) (by decide), ?_⟩
  exact (reports_hide_password op 0 (.change _ _) rfl rfl rfl rfl (by decide) (by decide)
    (.of_complete "q" (by decide) (by decide))).1

/-! ## A report that shows a password -/

/-- What comes before the first excerpt in a report of a complaint and `more` others. -/
def Validation.Report.head (title : String) (c : Complaint) (path : List Validation.Step)
    (more : Nat) : String :=
  toString (more + 1) ++ " validation error" ++ (if more + 1 = 1 then "" else "s") ++ " for " ++
    title ++ "\n" ++ ".".intercalate (path.map Step.text) ++ "\n" ++
    ("  " ++ c.message ++ " [type=" ++ c.code ++ ", input_value=")

theorem Validation.Report.text_cons (title : String) {i : Issue} (hp : i.path.isEmpty = false)
    (rest : List Issue) :
    ∃ tail, (Report.mk title (i :: rest)).text =
      head title i.complaint i.path rest.length ++
        (String.ofList (Text.excerpt i.subject.literal.toList) ++ tail) := by
  have hlines : ∀ a b c d : String, ∀ ls : List String,
      "\n".intercalate (a :: b :: c :: d :: ls) =
        a ++ "\n" ++ b ++ "\n" ++ (c ++ ("\n" ++ "\n".intercalate (d :: ls))) := by
    intro a b c d ls
    simp only [String.intercalate_cons_cons, String.append_assoc]
  simp only [text, List.flatMap_cons, Issue.lines, hp, if_false, Bool.false_eq_true,
    List.cons_append, List.nil_append, hlines, head, List.length_cons, String.append_assoc]
  exact ⟨_, rfl⟩

/-- A database reference of a password alone. -/
def bareRef (p : String) : Json := .obj [("password", .str p)]

def bareRefTenant (p : String) : Json :=
  .obj [("metadata", .obj [("name", .str "a")]),
    ("spec", .obj [("hostname", .str "a.example"), ("image", .str "moodle"),
      ("storage", .obj [("size", .str "1Gi")]), ("databaseRef", bareRef p)])]

/-- The report on such a tenant. -/
def missingRef (p : String) : Validation.Report :=
  ⟨"TenantDeclaration", ["host", "adminSecret", "name", "user"].map fun field =>
    ⟨.missing, [.key "spec", .key "databaseRef", .key field], .json (bareRef p)⟩⟩

/-- A world with such a tenant alone. -/
def bareRefWorld (p : String) : World MemoryCluster := { cluster := .joinedBy {} [bareRefTenant p] }

/-- What a handler that looks after the tenant answers. -/
def bareRefAnswer (p : String) : Except Fault Unit :=
  ((({} : Operator).onChange 0 (.str "a") 0).run (bareRefWorld p)).1

theorem bareRefAnswer_p : ∃ delay, bareRefAnswer "p" =
    .error (.retryLater ("Reconcile failed: " ++ (missingRef "p").text) delay) :=
  ⟨_, rfl⟩

theorem bareRefAnswer_q : ∃ delay, bareRefAnswer "q" =
    .error (.retryLater ("Reconcile failed: " ++ (missingRef "q").text) delay) :=
  ⟨_, rfl⟩

theorem excerpt_bareRef : ∀ p ∈ ["p", "q"],
    (bareRef p).excerpt = "\x7b'password': '".toList ++ p.toList ++ "'\x7d".toList := by
  simp only [Json.excerpt, bareRef, Json.literal, Json.literalFields, Json.keyLiteral, Text.quote,
    String.toList_append, String.toList_ofList]
  decide +kernel

theorem text_missingRef (p : String) : ∃ tail, (missingRef p).text =
    Validation.Report.head "TenantDeclaration" .missing
        [.key "spec", .key "databaseRef", .key "host"] 3 ++
      (String.ofList (bareRef p).excerpt ++ tail) :=
  Validation.Report.text_cons "TenantDeclaration"
    (rfl : (Issue.mk .missing [.key "spec", .key "databaseRef", .key "host"]
      (.json (bareRef p))).path.isEmpty = false) (missingRef p).issues.tail

theorem text_missingRef_ne : (missingRef "q").text ≠ (missingRef "p").text := by
  intro h
  have hp := excerpt_bareRef "p" (by simp)
  have hq := excerpt_bareRef "q" (by simp)
  have hlength : (bareRef "q").excerpt.length = (bareRef "p").excerpt.length := by
    rw [hp, hq]
    decide
  obtain ⟨tail, ht⟩ := text_missingRef "p"
  obtain ⟨tail', ht'⟩ := text_missingRef "q"
  have hrest := congrArg String.toList ((String.append_right_inj _).1 (ht'.symm.trans (h.trans ht)))
  simp only [String.toList_append, String.toList_ofList] at hrest
  have hexcerpt := (List.append_inj hrest hlength).1
  rw [hp, hq] at hexcerpt
  exact absurd hexcerpt (by decide)

/-- On clusters that differ in a password alone, a handler may answer with different reports. -/
theorem report_quotes_password :
    ∃ kept ref spec, (bareRefWorld "p").cluster.tenants.get? (.text "a") = some kept ∧
      kept.body.get? "spec" = some (.obj spec) ∧
      Fields.get? "databaseRef" spec = some (.obj ref) ∧
      Fields.get? "password" ref = some (.str "p") ∧
      bareRefWorld "q" = { bareRefWorld "p" with
        cluster := (bareRefWorld "p").cluster.withBody (.text "a") kept
          (kept.body.set "spec" (.obj (specWithPassword "q" ref spec))) } ∧
      bareRefAnswer "q" ≠ bareRefAnswer "p" := by
  refine ⟨_, _, _, rfl, rfl, rfl, rfl, rfl, ?_⟩
  obtain ⟨delay, hp⟩ := bareRefAnswer_p
  obtain ⟨delay', hq⟩ := bareRefAnswer_q
  rw [hp, hq]
  intro h
  obtain ⟨hmessage, -⟩ := Fault.retryLater.inj (Except.error.inj h)
  exact text_missingRef_ne ((String.append_right_inj _).1 hmessage)

end MoodleTenancy
