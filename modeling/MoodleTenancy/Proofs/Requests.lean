import MoodleTenancy.Cluster.Scripted
import MoodleTenancy.Proofs.Paths

/-!
# Calls as single requests

Every call of a cluster behind HTTP sends one request, or refuses its arguments and sends none.
What a call returns depends on the response alone. Reading, deleting and creating an object agree
on where it is, and status 404 is an answer only where the call asks whether there is an object.

* `Sends`: the call sends one request, and makes its outcome of the response.
* `TellsAbsence`: the responses to which the outcome is one value, and what becomes of faults.
* `LosesNoFault`: every fault is passed on.
* `AgreesOn`: the calls on one object agree on its address.
* `calls_address_objects`: the address of each object and the faults of each call.
-/

namespace MoodleTenancy
set_option autoImplicit false

open Http

variable {τ α β : Type} [Transport τ]

/-! ## One request -/

/-- The call sends the request and nothing else, and makes its outcome of the response. -/
def Sends (call : Task τ α) (r : Request) (reply : Except Fault Json → Except Fault α) : Prop :=
  ∀ s : τ, call.run s =
    (reply ((Transport.send r : Task τ Json).run s).1, ((Transport.send r : Task τ Json).run s).2)

namespace Sends

theorem send (r : Request) : Sends (Transport.send r : Task τ Json) r id := fun _ => rfl

variable {call : Task τ α} {r : Request} {reply : Except Fault Json → Except Fault α}

/-- What is worked out of the outcome sends nothing more. -/
theorem thenPure (h : Sends call r reply) (f : α → Except Fault β) {rest : α → Task τ β}
    (hrest : ∀ a, rest a = Task.ofExcept (f a)) :
    Sends (call >>= rest) r fun response => reply response >>= f := by
  intro s
  rw [Task.run_bind, h s]
  dsimp only
  cases reply ((Transport.send r : Task τ Json).run s).1 with
  | error fault => rfl
  | ok a => exact congrArg (fun t => Task.run t _) (hrest a)

/-- A check that the arguments pass sends nothing. -/
theorem afterCheck {γ : Type} (check : Except Fault γ) {a : γ} (ha : check = .ok a)
    {rest : γ → Task τ α} (h : Sends (rest a) r reply) :
    Sends (Task.ofExcept check >>= rest) r reply := by
  subst ha
  exact h

end Sends

/-- Status 404 as an answer. -/
def absentOr (absent : α) : Except Fault α → Except Fault α
  | .ok a => .ok a
  | .error fault => if fault.isNotFound then .ok absent else .error fault

theorem Sends.unlessNotFound {call : Task τ α} {r : Request}
    {reply : Except Fault Json → Except Fault α} (h : Sends call r reply) (absent : α) :
    Sends (Http.unlessNotFound absent call) r fun response => absentOr absent (reply response) := by
  intro s
  rw [Http.unlessNotFound, Task.run_rescue, h s]
  dsimp only
  cases reply ((Transport.send r : Task τ Json).run s).1 with
  | ok a => rfl
  | error fault =>
    dsimp only [absentOr]
    split <;> rfl

/-! ## Documents in responses -/

/-- The document in a response, if there is one. -/
def documentOf (s : Shape) (response : Json) : Except Fault (Option Json) :=
  match response.toOption with
  | none => .ok none
  | some j => (s.receive j).map fun _ => some j

omit [Transport τ] in
theorem received_eq (s : Shape) (response : Json) :
    (received s response : Task τ (Option Json)) = Task.ofExcept (documentOf s response) := by
  unfold received documentOf
  cases response.toOption with
  | none => rfl
  | some j =>
    dsimp only
    cases s.receive j <;> rfl

theorem Sends.answer (s : Shape) (r : Request) :
    Sends (Http.answer s r : Task τ (Option Json)) r fun response => response >>= documentOf s :=
  (Sends.send r).thenPure (documentOf s) (received_eq s)

/-- Whatever fails here, it is not that an object was not found. -/
def NeverNotFound (e : Except Fault β) : Prop :=
  ∀ fault, e = .error fault → fault.isNotFound = false

namespace NeverNotFound

theorem ok (b : β) : NeverNotFound (.ok b) := nofun

theorem error {fault : Fault} (h : fault.isNotFound = false) :
    NeverNotFound (.error fault : Except Fault β) := by
  rintro _ ⟨⟩
  exact h

theorem bind {γ : Type} {e : Except Fault β} {f : β → Except Fault γ} (he : NeverNotFound e)
    (hf : ∀ b, NeverNotFound (f b)) : NeverNotFound (e >>= f) := by
  cases e with
  | error fault => exact error (he fault rfl)
  | ok b => exact hf b

theorem forM {items : List β} {f : β → Except Fault Unit} (h : ∀ b, NeverNotFound (f b)) :
    NeverNotFound (items.forM f) := by
  induction items with
  | nil => exact ok ()
  | cons b items ih =>
    exact (h b).bind fun _ => ih

theorem itemsOf (j : Json) : NeverNotFound j.itemsOf := by
  cases j <;> first | exact ok _ | exact error rfl

theorem ofIssues (title : String) (issues : List Validation.Issue) :
    NeverNotFound ((Validation.Report.ofIssues title issues).mapError Fault.invalid) := by
  unfold Validation.Report.ofIssues
  split
  · exact ok ()
  · exact error rfl

end NeverNotFound

/-- A document that is not of its shape is never taken for one that is not there. -/
theorem neverNotFound_receive (s : Shape) (j : Json) : NeverNotFound (s.receive j) := by
  -- The induction is on documents and on the members of their shapes together.
  apply Shape.receive.induct (fun s j => NeverNotFound (s.receive j)) fun members fields =>
    NeverNotFound (Shape.receiveMembers members fields)
  all_goals intros
  case case1 name members fields wire h ih =>
    simp only [Shape.receive, h]
    exact .error rfl
  case case2 name members fields h ih =>
    have given : Shape.givenTwice? members fields = none := by
      cases hg : Shape.givenTwice? members fields with
      | none => rfl
      | some wire => exact (h wire hg).elim
    simp only [Shape.receive, given]
    exact ih.bind fun _ => .ofIssues _ _
  case case3 name members j h =>
    simp only [Shape.receive]
    exact .error rfl
  case case4 s j h ih =>
    simp only [Shape.receive, h, if_true]
    refine (NeverNotFound.itemsOf j).bind fun items => .forM fun item => ?_
    split
    · exact .ok ()
    · exact ih item
  case case5 s j h =>
    simp only [Shape.receive, h]
    exact .ok ()
  case case6 s j _ notModel notList =>
    cases s with
    | model name members => exact (notModel name members rfl).elim
    | list s => exact (notList s rfl).elim
    | _ => exact .ok ()
  case case7 fields => exact .ok ()
  case case8 wire isNeeded s rest fields h ih =>
    simp only [Shape.receiveMembers, h]
    exact ih
  case case9 wire isNeeded s rest fields h ihs ih =>
    simp only [Shape.receiveMembers]
    exact ihs.bind fun _ => ih

theorem neverNotFound_documentOf (s : Shape) (response : Json) :
    NeverNotFound (documentOf s response) := by
  unfold documentOf
  split
  · exact .ok none
  · exact (neverNotFound_receive s _).bind fun _ => .ok _

/-! ## What calls make of responses -/

/-- The response is status 404, for whatever reason. -/
def IsAbsence (response : Except Fault Json) : Prop :=
  ∃ reason, response = .error (.api (some 404) reason)

theorem isAbsence_error_iff {fault : Fault} :
    IsAbsence (.error fault) ↔ fault.isNotFound = true := by
  cases fault <;> simp [IsAbsence, Fault.isNotFound]

/-- The outcome is `absent` to certain responses alone, and a fault other than status 404 is passed
on. -/
structure TellsAbsence (absent : α) (certain : Except Fault Json → Prop)
    (reply : Except Fault Json → Except Fault α) : Prop where
  absent_iff : ∀ response, reply response = .ok absent ↔ certain response
  passes : ∀ fault, ¬IsAbsence (.error fault) → reply (.error fault) = .error fault

/-- Every fault is passed on. -/
def PassesFaults (reply : Except Fault Json → Except Fault α) : Prop :=
  ∀ fault, reply (.error fault) = .error fault

/-- No fault is lost on the call: it refuses its arguments and sends nothing, or it sends one
request and passes on every fault. -/
def LosesNoFault (call : Task τ α) : Prop :=
  (∃ fault, ∀ s, call.run s = (.error fault, s)) ∨
    ∃ r reply, Sends call r reply ∧ PassesFaults reply

theorem absentOr_eq_ok_iff {absent a : α} {e : Except Fault α} :
    absentOr absent e = .ok a ↔
      e = .ok a ∨ (absent = a ∧ ∃ fault, e = .error fault ∧ fault.isNotFound = true) := by
  cases e with
  | ok b => simp [absentOr]
  | error fault =>
    by_cases h : fault.isNotFound = true <;> simp [absentOr, h]

/-- A call that looks into responses takes only status 404 for an absence, and what it finds there
for one. -/
theorem tellsAbsence_absentOr (absent : α) {f : Json → Except Fault α}
    (hf : ∀ j, NeverNotFound (f j)) :
    TellsAbsence absent
      (fun response => IsAbsence response ∨ ∃ j, response = .ok j ∧ f j = .ok absent)
      fun response => absentOr absent (response >>= f) where
  absent_iff response := by
    rw [absentOr_eq_ok_iff]
    cases response with
    | error fault =>
      rw [isAbsence_error_iff]
      show (Except.error fault = _ ∨ _ ∧ ∃ f, Except.error fault = _ ∧ _) ↔ _
      simp
    | ok j =>
      -- What is there may be refused for its form, and that is no status 404 either.
      have found : ¬∃ fault, f j = .error fault ∧ fault.isNotFound = true := by
        rintro ⟨fault, h, notFound⟩
        rw [hf j fault h] at notFound
        exact nomatch notFound
      show (f j = _ ∨ _ ∧ ∃ fault, f j = _ ∧ _) ↔ _
      simp [IsAbsence, found]
  passes fault h := by
    rw [isAbsence_error_iff] at h
    show absentOr absent (.error fault) = _
    simp [absentOr, h]

theorem TellsAbsence.map {absent : α} {certain : Except Fault Json → Prop}
    {reply : Except Fault Json → Except Fault α} (h : TellsAbsence absent certain reply) {g : α → β}
    {b : β} (hg : ∀ a, g a = b ↔ a = absent) :
    TellsAbsence b certain fun response => reply response >>= fun a => .ok (g a) where
  absent_iff response := by
    rw [← h.absent_iff]
    cases reply response with
    | error fault => exact ⟨nofun, nofun⟩
    | ok a =>
      show Except.ok (g a) = .ok b ↔ _
      rw [Except.ok.injEq, Except.ok.injEq, hg]
  passes fault hf := by
    show reply (.error fault) >>= _ = _
    rw [h.passes fault hf]
    rfl

theorem TellsAbsence.congr {absent : α} {certain certain' : Except Fault Json → Prop}
    {reply : Except Fault Json → Except Fault α} (h : TellsAbsence absent certain reply)
    (same : ∀ response, certain response ↔ certain' response) :
    TellsAbsence absent certain' reply where
  absent_iff response := (h.absent_iff response).trans (same response)
  passes := h.passes

theorem toOption_eq_none_iff {j : Json} : j.toOption = none ↔ j = .null := by
  cases j <;> simp [Json.toOption]

theorem documentOf_eq_ok_none_iff {s : Shape} {j : Json} :
    documentOf s j = .ok none ↔ j = .null := by
  rw [← toOption_eq_none_iff]
  unfold documentOf
  cases j.toOption with
  | none => simp
  | some j =>
    dsimp only
    cases s.receive j <;> simp [Except.map]

/-- What a response to a deletion comes to: for some kinds it has the object, of its shape. -/
def deletion (k : Kind) (response : Json) : Except Fault Bool :=
  if k.returnsDeleted then documentOf k.shape response >>= fun _ => .ok true else .ok true

theorem neverNotFound_deletion (k : Kind) (response : Json) :
    NeverNotFound (deletion k response) := by
  unfold deletion
  split
  · exact (neverNotFound_documentOf _ _).bind fun _ => .ok true
  · exact .ok true

theorem deletion_ne_false (k : Kind) (response : Json) : deletion k response ≠ .ok false := by
  unfold deletion
  split
  · cases documentOf k.shape response <;> exact nofun
  · exact nofun

/-! ## Addresses -/

/-- A call that names `place`, which may be none, is about objects of the namespace `ns`. -/
def Kind.IsIn (k : Kind) (place : Option String) (ns : String) : Prop :=
  k = .namespaceKind ∨ place = some ns

section
variable {k : Kind} {place : Option String} {ns : String}

theorem Kind.IsIn.namespaceIssues_eq_nil (h : k.IsIn place ns) : namespaceIssues k place = [] := by
  rcases h with rfl | rfl <;> simp [namespaceIssues]

theorem Kind.IsIn.admissible_eq (h : k.IsIn place ns) (title : String) :
    admissible title (namespaceIssues k place) = .ok () := by
  rw [h.namespaceIssues_eq_nil]
  rfl

theorem Kind.IsIn.collectionSegments_eq (h : k.IsIn place ns) :
    collectionSegments k (place.getD "") = collectionSegments k ns :=
  collectionSegments_inj.2 ⟨rfl, h.imp_right fun h => by rw [h, Option.getD_some]⟩

theorem sends_read (h : k.IsIn place ns) (name : String) :
    ∃ reply, Sends (Http.read k name place : Task τ (Option Part))
        ⟨.get, objectPath k ns name, none⟩ reply ∧
      TellsAbsence none (fun response => IsAbsence response ∨ response = .ok .null) reply := by
  have answered : Sends (Http.answer k.shape ⟨.get, objectPath k ns name, none⟩ :
      Task τ (Option Json)) _ _ := .answer _ _
  have sent := (answered.unlessNotFound none).thenPure (fun found => .ok (found.map Part.ofJson)) fun _ => rfl
  have answers := (tellsAbsence_absentOr none (neverNotFound_documentOf k.shape)).map
    (g := Option.map Part.ofJson) (b := none) (by simp)
  refine ⟨_, ?_, answers.congr (by simp [documentOf_eq_ok_none_iff])⟩
  unfold Http.read objectPath
  rw [h.collectionSegments_eq]
  exact .afterCheck _ (h.admissible_eq _) sent

theorem sends_delete (h : k.IsIn place ns) (name : String) :
    ∃ reply, Sends (Http.delete k name place : Task τ Bool)
        ⟨.delete, objectPath k ns name, none⟩ reply ∧ TellsAbsence false IsAbsence reply := by
  refine ⟨_, ?_, (tellsAbsence_absentOr false (neverNotFound_deletion k)).congr ?_⟩
  · unfold Http.delete objectPath
    rw [h.collectionSegments_eq]
    refine .afterCheck _ (h.admissible_eq _) (Sends.unlessNotFound ?_ false)
    refine (Sends.send _).thenPure (deletion k) fun response => ?_
    unfold deletion
    split
    · rw [received_eq]
      cases documentOf k.shape response <;> rfl
    · rfl
  · simp [deletion_ne_false]

theorem sends_create {m : Manifest} (h : k.IsIn m.key.namespaceName ns)
    (hm : m.object.model? = some k.modelName) :
    ∃ reply, Sends (Http.create k m : Task τ Json)
        ⟨.post, collectionPath k ns, some m.document⟩ reply ∧ PassesFaults reply := by
  have answered : Sends (Http.answer k.shape ⟨.post, collectionPath k ns, some m.document⟩ :
      Task τ (Option Json)) _ _ := .answer _ _
  have sent := answered.thenPure (fun found => .ok (Json.ofOption found)) fun _ => rfl
  have fit : admissible (k.callTitle "create")
      (namespaceIssues k m.key.namespaceName ++ bodyIssues k m) = .ok () := by
    rw [bodyIssues, if_pos hm, List.append_nil, h.admissible_eq]
  have passes : PassesFaults fun response =>
      (response >>= documentOf k.shape) >>= fun found => .ok (Json.ofOption found) := fun _ => rfl
  refine ⟨_, ?_, passes⟩
  unfold Http.create collectionPath
  dsimp only
  rw [h.collectionSegments_eq]
  exact .afterCheck _ fit sent

end

theorem sends_readTenant (name : String) :
    ∃ reply, Sends (Http.readTenant (.str name) : Task τ (Option Json))
        ⟨.get, tenantPath name, none⟩ reply ∧
      TellsAbsence none (fun response => IsAbsence response ∨ response = .ok .null) reply := by
  have got : Sends (Transport.send ⟨.get, tenantPath name, none⟩ : Task τ Json) _ _ := .send _
  have sent := (got.thenPure (fun response => .ok response.toOption) fun _ => rfl).unlessNotFound
    none
  refine ⟨_, sent, (tellsAbsence_absentOr none fun j => .ok _).congr ?_⟩
  simp [toOption_eq_none_iff]

/-! ## Faults -/

theorem losesNoFault_ofExcept {γ : Type} (check : Except Fault γ) {rest : γ → Task τ α}
    (h : ∀ a, check = .ok a → LosesNoFault (rest a)) :
    LosesNoFault (Task.ofExcept check >>= rest) := by
  cases check with
  | error fault => exact .inl ⟨fault, fun _ => rfl⟩
  | ok a => exact h a rfl

theorem losesNoFault_create (k : Kind) (m : Manifest) :
    LosesNoFault (Http.create k m : Task τ Json) :=
  losesNoFault_ofExcept _ fun _ _ =>
    .inr ⟨_, _, (Sends.answer _ _).thenPure (fun found => .ok (.ofOption found)) fun _ => rfl,
      fun _ => rfl⟩

theorem losesNoFault_listTenants : LosesNoFault (Http.listTenants : Task τ (List Json)) :=
  .inr ⟨_, _, (Sends.send _).thenPure namesIn fun _ => rfl, fun _ => rfl⟩

theorem losesNoFault_replaceTenant (body : Json) :
    LosesNoFault (Http.replaceTenant body : Task τ Json) :=
  losesNoFault_ofExcept _ fun _ _ => losesNoFault_ofExcept _ fun _ _ =>
    .inr ⟨_, _, Sends.send _, fun _ => rfl⟩

theorem losesNoFault_patchTenantStatus (name patch : Json) :
    LosesNoFault (Http.patchTenantStatus name patch : Task τ Unit) :=
  losesNoFault_ofExcept _ fun _ _ =>
    .inr ⟨_, _, (Sends.send _).thenPure (fun _ => .ok ()) fun _ => rfl, fun _ => rfl⟩

/-! ## All calls -/

/-- Where the calls on one object send their requests, and what they make of the responses. -/
structure AgreesOn (τ : Type) [Transport τ] (k : Kind) (ns name : String) : Prop where
  read : ∀ place, k.IsIn place ns → ∃ reply,
    Sends (Http.read k name place : Task τ (Option Part)) ⟨.get, objectPath k ns name, none⟩ reply ∧
      TellsAbsence none (fun response => IsAbsence response ∨ response = .ok .null) reply
  delete : ∀ place, k.IsIn place ns → ∃ reply,
    Sends (Http.delete k name place : Task τ Bool) ⟨.delete, objectPath k ns name, none⟩ reply ∧
      TellsAbsence false IsAbsence reply
  create : ∀ m : Manifest, m.object.model? = some k.modelName → m.key.kind = k →
    k.IsIn m.key.namespaceName ns → m.key.name = name → ∃ reply,
      Sends (Http.create k m : Task τ Json) ⟨.post, collectionPath k ns, some m.document⟩ reply ∧
        PassesFaults reply
  address : objectPath k ns name = collectionPath k ns ++ "/" ++ Text.percentEncode name

theorem agreesOn (k : Kind) (ns name : String) : AgreesOn τ k ns name where
  read _ h := sends_read h name
  delete _ h := sends_delete h name
  create _ model _ h _ := sends_create h model
  address := objectPath_eq k ns name

/-- The calls on an object agree on its path, which no other object has. Reading finds nothing
exactly on status 404 and on a null response, deleting exactly on status 404, and every other fault
is passed on. -/
theorem calls_address_objects (τ : Type) [Transport τ] :
    (∀ k ns name, AgreesOn τ k ns name) ∧
    (∀ k l ns ns' name name', objectPath k ns name = objectPath l ns' name' →
      k = l ∧ name = name' ∧ (k = .namespaceKind ∨ ns = ns')) ∧
    (∀ name, ∃ reply, Sends (Http.readTenant (.str name) : Task τ (Option Json))
        ⟨.get, tenantPath name, none⟩ reply ∧
      TellsAbsence none (fun response => IsAbsence response ∨ response = .ok .null) reply) ∧
    (∀ k m, LosesNoFault (Http.create k m : Task τ Json)) ∧
    (∀ body, LosesNoFault (Http.replaceTenant body : Task τ Json)) ∧
    (∀ name patch, LosesNoFault (Http.patchTenantStatus name patch : Task τ Unit)) ∧
    LosesNoFault (Http.listTenants : Task τ (List Json)) :=
  ⟨agreesOn, fun _ _ _ _ _ _ => objectPath_inj_iff.1, sends_readTenant, losesNoFault_create,
    losesNoFault_replaceTenant, losesNoFault_patchTenantStatus, losesNoFault_listTenants⟩

/-- For example, where a namespace and a secret of it are asked for. -/
theorem calls_address_objects_scripted :
    (∃ reply, Sends (Http.read .namespaceKind "a" none : Task ScriptedServer (Option Part))
        ⟨.get, "/api/v1/namespaces/a", none⟩ reply ∧ reply (.error .notFound) = .ok none) ∧
    ∃ reply, Sends (Http.delete .secret "s" (some "a/b") : Task ScriptedServer Bool)
        ⟨.delete, "/api/v1/namespaces/a%2Fb/secrets/s", none⟩ reply ∧
      reply (.error .conflict) = .error .conflict := by
  obtain ⟨agree, -⟩ := calls_address_objects ScriptedServer
  constructor
  · obtain ⟨reply, sends, answers⟩ := (agree .namespaceKind "" "a").read none (.inl rfl)
    refine ⟨reply, ?_, (answers.absent_iff _).2 (.inl ⟨_, rfl⟩)⟩
    have address : objectPath .namespaceKind "" "a" = "/api/v1/namespaces/a" := by decide +kernel
    rwa [address] at sends
  · obtain ⟨reply, sends, answers⟩ := (agree .secret "a/b" "s").delete (some "a/b") (.inr rfl)
    refine ⟨reply, ?_, answers.passes _ ?_⟩
    · have address : objectPath .secret "a/b" "s" = "/api/v1/namespaces/a%2Fb/secrets/s" := by
        decide +kernel
      rwa [address] at sends
    · rw [isAbsence_error_iff]
      decide

/-- A server that answers with null where the namespace is asked for. -/
def nullServer : ScriptedServer where
  canned := [("GET /api/v1/namespaces/x", .null)]

/-- A null response is no status 404, and still nothing is found. -/
theorem null_response_reads_none :
    ((Transport.send ⟨.get, "/api/v1/namespaces/x", none⟩ : Task ScriptedServer Json).run
      nullServer).1 = .ok .null ∧
    ((Http.read .namespaceKind "x" none : Task ScriptedServer (Option Part)).run
      nullServer).1 = .ok none :=
  ⟨by rfl, by rfl⟩

end MoodleTenancy
