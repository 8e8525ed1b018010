import MoodleTenancy.Proofs.Entries

/-!
# Becoming ready, in the log

A tenant that is ready stays so until a namespace is made for it or a pass fails, and both have an
entry of their own. So the log has one entry of readiness for each time that the tenant becomes
ready, right behind what was made then.

* `MarksTransitions`: the order of the entries. `Heralded`: what stands before one of readiness.
* `Heralds.append_setback`, `Heralds.append_converged`: what comes in behind a log.
  `Heralds.of_suffix`: what is dropped in front.
* `Json.TracksReadiness`: what lasts over the reports on a tenant.
* `Followed`: a tenant's body after reports on it.
* `tenantReady_marks_transitions`: the log after any reports, and what one more makes of it.
-/

namespace MoodleTenancy
set_option autoImplicit false

/-- What a tenant has to become ready after. -/
def Activity.setbacks : List String := ["NAMESPACE_CREATED", "RECONCILE_FAILED"]

/-- The entries of readiness among those of a log, by what they tell of. There is a setback between
any two of them, and next to nothing between one of them and the last setback before it. -/
structure MarksTransitions (events : List String) : Prop where
  between {pre mid post : List String} :
    events = pre ++ "TENANT_READY" :: mid ++ "TENANT_READY" :: post →
    ∃ e ∈ mid, e ∈ Activity.setbacks
  nearest {pre mid post : List String} {e : String} :
    events = pre ++ e :: mid ++ "TENANT_READY" :: post → e ∈ Activity.setbacks →
    (∀ f ∈ mid, f ∉ Activity.setbacks) → mid = [] ∨ mid = ["RESOURCES_CREATED"]

/-! ## Heralds -/

/-- The last entry is one of a setback, if there is any. -/
def EndsInSetback (events : List String) : Prop := ∀ e ∈ events.getLast?, e ∈ Activity.setbacks

/-- At most one entry, of what was made. -/
def TellsAtMostMade (events : List String) : Prop := events = [] ∨ events = ["RESOURCES_CREATED"]

/-- A setback, if it is not too old for the log, and what was made since. -/
def Heralded (events : List String) : Prop :=
  ∃ early told, events = early ++ told ∧ EndsInSetback early ∧ TellsAtMostMade told

/-- The entries of readiness are heralded, and so is the next one if the tenant is not ready. -/
structure Heralds (isReady : Bool) (events : List String) : Prop where
  heralded {pre post : List String} : events = pre ++ "TENANT_READY" :: post → Heralded pre
  unready : isReady = false → EndsInSetback events

section Heralds

variable {isReady : Bool} {events later new pre mid : List String} {e : String}

theorem EndsInSetback.cons (h : EndsInSetback (pre ++ e :: mid)) :
    (mid = [] ∧ e ∈ Activity.setbacks) ∨ ∃ f ∈ mid, f ∈ Activity.setbacks := by
  obtain rfl | ⟨rest, last, rfl⟩ := List.eq_nil_or_concat' mid
  · exact .inl ⟨rfl, h e (by simp)⟩
  · have hlast : last ∈ (pre ++ e :: (rest ++ [last])).getLast? := by
      rw [← List.cons_append, ← List.append_assoc]
      exact List.getLast?_concat
    exact .inr ⟨last, by simp, h last hlast⟩

theorem EndsInSetback.of_suffix (h : EndsInSetback events) (hs : later <:+ events) :
    EndsInSetback later := by
  obtain ⟨early, rfl⟩ := hs
  intro e he
  refine h e ?_
  rw [List.getLast?_append, Option.mem_def.1 he]
  rfl

theorem TellsAtMostMade.of_suffix (h : TellsAtMostMade events) (hs : later <:+ events) :
    TellsAtMostMade later := by
  obtain ⟨early, rfl⟩ := hs
  obtain h | h := h
  · exact .inl (List.append_eq_nil_iff.1 h).2
  · obtain ⟨-, rfl⟩ | ⟨-, rfl⟩ := List.append_eq_singleton_iff.1 h
    · exact .inr rfl
    · exact .inl rfl

theorem Heralded.of_suffix (h : Heralded events) (hs : later <:+ events) : Heralded later := by
  obtain ⟨early, told, rfl, hearly, htold⟩ := h
  obtain ⟨dropped, heq⟩ := hs
  obtain ⟨rest, rfl, rfl⟩ | ⟨rest, rfl, rfl⟩ := List.append_eq_append_iff.1 heq
  · exact ⟨rest, told, rfl, hearly.of_suffix (List.suffix_append _ _), htold⟩
  · exact ⟨[], later, rfl, by simp [EndsInSetback], htold.of_suffix (List.suffix_append _ _)⟩

/-- Behind an entry of anything else than what was made, there is another setback or next to
nothing, and then the entry is one of a setback itself. -/
theorem Heralded.cons (h : Heralded (pre ++ e :: mid)) (he : e ≠ "RESOURCES_CREATED") :
    (TellsAtMostMade mid ∧ e ∈ Activity.setbacks) ∨ ∃ f ∈ mid, f ∈ Activity.setbacks := by
  obtain ⟨early, told, heq, hearly, rfl | rfl⟩ := h
  · rw [List.append_nil] at heq
    subst heq
    obtain ⟨rfl, hset⟩ | hlater := hearly.cons
    · exact .inl ⟨.inl rfl, hset⟩
    · exact .inr hlater
  · obtain rfl | ⟨rest, last, rfl⟩ := List.eq_nil_or_concat' mid
    · exact absurd (List.singleton_inj.1 (List.append_inj' heq rfl).2) he
    · have heq' : (pre ++ e :: rest) ++ [last] = early ++ ["RESOURCES_CREATED"] := by
        simpa using heq
      obtain ⟨rfl, hlast⟩ := List.append_inj' heq' rfl
      obtain ⟨rfl, hset⟩ | ⟨f, hf, hset⟩ := hearly.cons
      · exact .inl ⟨.inr (by simpa using hlast), hset⟩
      · exact .inr ⟨f, by simp [hf], hset⟩

namespace Heralds

theorem marks (h : Heralds isReady events) : MarksTransitions events where
  between heq := by
    obtain ⟨-, habsurd⟩ | hset := (h.heralded heq).cons (by decide)
    · exact absurd habsurd (by decide)
    · exact hset
  nearest {pre mid post e} heq he hmid := by
    have hne : e ≠ "RESOURCES_CREATED" := by
      rintro rfl
      exact absurd he (by decide)
    obtain ⟨hmade, -⟩ | ⟨f, hf, hset⟩ := (h.heralded heq).cons hne
    · exact hmade
    · exact absurd hset (hmid f hf)

theorem of_suffix (h : Heralds isReady events) (hs : later <:+ events) :
    Heralds isReady later where
  heralded {pre post} heq := by
    obtain ⟨early, rfl⟩ := hs
    have hlonger : early ++ later = (early ++ pre) ++ "TENANT_READY" :: post := by
      rw [heq, List.append_assoc]
    exact (h.heralded hlonger).of_suffix (List.suffix_append _ _)
  unready hu := (h.unready hu).of_suffix hs

theorem append (h : Heralds isReady events)
    (hnew : ∀ pre post, new = pre ++ "TENANT_READY" :: post → Heralded (events ++ pre)) :
    Heralds true (events ++ new) where
  heralded {pre post} heq := by
    obtain ⟨rest, rfl, hrest⟩ | ⟨rest, hevents, hrest⟩ := List.append_eq_append_iff.1 heq
    · exact hnew rest post hrest
    · cases rest with
      | nil =>
        have hall := hnew [] post hrest.symm
        rw [hevents] at hall
        simpa using hall
      | cons first rest =>
        obtain ⟨rfl, -⟩ := List.cons.inj hrest
        exact h.heralded hevents
  unready hu := absurd hu (by decide)

theorem append_of_notMem (h : Heralds isReady events) (hnew : "TENANT_READY" ∉ new) :
    Heralds true (events ++ new) := by
  refine h.append fun pre post heq => absurd ?_ hnew
  rw [heq]
  exact List.mem_append_right _ List.mem_cons_self

theorem append_setback (h : Heralds isReady events) (he : e ∈ Activity.setbacks) :
    Heralds false (events ++ [e]) where
  heralded heq := by
    have hne : "TENANT_READY" ∉ [e] := by
      intro hmem
      rw [← List.mem_singleton.1 hmem] at he
      exact absurd he (by decide)
    exact (h.append_of_notMem hne).heralded heq
  unready _ := by
    intro f hf
    rw [List.getLast?_append, List.getLast?_singleton, Option.some_or, Option.mem_some] at hf
    exact hf ▸ he

/-- A pass that converges tells that the tenant is ready now if it was not before. -/
theorem append_converged (h : Heralds isReady events) {told : List String}
    (htold : TellsAtMostMade told) :
    Heralds true (events ++ (told ++ if isReady then [] else ["TENANT_READY"])) := by
  have hmade : Heralds true (events ++ told) := by
    refine h.append_of_notMem ?_
    obtain rfl | rfl := htold <;> decide
  cases isReady with
  | true => simpa using hmade
  | false =>
    have hready : Heralded (events ++ told) := ⟨events, told, rfl, h.unready rfl, htold⟩
    rw [← List.append_assoc]
    refine hmade.append fun pre post heq => ?_
    obtain ⟨rfl, -⟩ : pre = [] ∧ post = [] := by simpa using List.append_eq_singleton_iff.1 heq.symm
    rw [List.append_nil]
    exact hready

end Heralds

end Heralds

/-! ## Reports -/

/-- Whether a status says that its tenant is ready. -/
def Json.isReady (status : Json) : Bool :=
  (ofOption (status.get? "phase")).isText "Ready"

theorem Json.isReady_eq (status : Json) :
    (ofOption (status.get? "phase")).isText Outcome.converged.phase = status.isReady := rfl

theorem Json.isReady_of_phase {status : Json} {o : Outcome}
    (h : status.get? "phase" = some (.str o.phase)) :
    status.isReady = decide (o = .converged) := by
  rw [isReady, h]
  cases o <;> rfl

/-- What a log tells of, in order. -/
def Json.events (status : Json) : List String := status.entries.map Json.event

namespace PassResult.Writes

variable {s : Settings} {now : Time.Instant} {r : PassResult} {before after : Json}
  {happened : List Activity} {new : List Json}

/-- A pass that converges tells of what it made, and of readiness that is new. Any other tells of
one setback. -/
theorem events_new (h : r.Writes s now before after happened new)
    (hr : r.outcome = .requeue ↔ r.namespaceCreated = true) :
    (r.outcome ≠ .converged ∧ ∃ e ∈ Activity.setbacks, new.map Json.event = [e]) ∨
      (r.outcome = .converged ∧ ∃ told, TellsAtMostMade told ∧
        new.map Json.event = told ++ if before.isReady then [] else ["TENANT_READY"]) := by
  rw [EntryOf.events_eq h.made]
  cases ho : r.outcome with
  | fatal =>
    obtain ⟨attempt, rfl⟩ := h.failed ho
    exact .inl ⟨by decide, "RECONCILE_FAILED", by decide, rfl⟩
  | requeue =>
    have hopened : r.namespaceCreated = true := hr.1 ho
    rw [h.done (by rw [ho]; decide), activities, ho, openings, if_pos hopened]
    exact .inl ⟨by decide, "NAMESPACE_CREATED", by decide, rfl⟩
  | converged =>
    have hunopened : r.namespaceCreated = false := by
      rw [Bool.eq_false_iff]
      intro hopened
      exact absurd ((hr.2 hopened).symm.trans ho) (by decide)
    rw [h.done (by rw [ho]; decide), activities, ho, openings, hunopened, Json.isReady_eq]
    refine .inr ⟨rfl, if r.created.isEmpty then [] else ["RESOURCES_CREATED"], ?_, ?_⟩
    · split
      · exact .inl rfl
      · exact .inr rfl
    · cases r.created.isEmpty <;> cases before.isReady <;> rfl

theorem entries_eq (h : r.Writes s now before after happened new)
    (hshort : before.entries.length ≤ Activity.limit) :
    after.entries = lastOf Activity.limit (before.entries ++ new) := by
  obtain ⟨rfl, hsame⟩ | hlog := h.log
  · rw [hsame, List.append_nil, lastOf_of_length_le hshort]
  · exact hlog

theorem tenantReady_mem (h : r.Writes s now before after happened new)
    (hr : r.outcome = .requeue ↔ r.namespaceCreated = true) :
    "TENANT_READY" ∈ new.map Json.event ↔ before.isReady = false ∧ after.isReady = true := by
  rw [Json.isReady_of_phase h.phase, decide_eq_true_iff]
  obtain ⟨ho, e, he, hnew⟩ | ⟨ho, told, htold, hnew⟩ := h.events_new hr
  · rw [hnew, List.mem_singleton]
    refine ⟨?_, fun hready => absurd hready.2 ho⟩
    rintro rfl
    exact absurd he (by decide)
  · have hmade : "TENANT_READY" ∉ told := by
      obtain rfl | rfl := htold <;> decide
    rw [hnew, List.mem_append]
    cases before.isReady <;> simp [hmade, ho]

end PassResult.Writes

/-- What lasts over the reports on a tenant: its log is no longer than it may be, and tells of
readiness as the status does. -/
structure Json.TracksReadiness (status : Json) : Prop where
  heralds : Heralds status.isReady status.events
  short : status.entries.length ≤ Activity.limit

theorem PassResult.Writes.tracks {s : Settings} {now : Time.Instant} {r : PassResult}
    {before after : Json} {happened : List Activity} {new : List Json}
    (h : r.Writes s now before after happened new)
    (hr : r.outcome = .requeue ↔ r.namespaceCreated = true) (hb : before.TracksReadiness) :
    after.TracksReadiness := by
  have hentries := h.entries_eq hb.short
  have hall : Heralds after.isReady (before.events ++ new.map Json.event) := by
    rw [Json.isReady_of_phase h.phase]
    obtain ⟨ho, e, he, hnew⟩ | ⟨ho, told, htold, hnew⟩ := h.events_new hr
    · rw [decide_eq_false ho, hnew]
      exact hb.heralds.append_setback he
    · rw [decide_eq_true ho, hnew]
      exact hb.heralds.append_converged htold
  have hkept : after.events <:+ before.events ++ new.map Json.event := by
    rw [Json.events, Json.events, hentries, ← List.map_append]
    exact (List.drop_suffix _ _).map _
  refine ⟨hall.of_suffix hkept, ?_⟩
  rw [hentries, length_lastOf]
  exact Nat.min_le_left _ _

/-! ## Runs of reports -/

/-- A body after reports on it that may have failed or written nothing, of passes that wait exactly
if they have made a namespace, as all do (`Reconciles.coherent`). Between the reports anything may
change but the status. -/
inductive Followed (s : Settings) : Json → Prop where
  | start {body : Json} (hs : body.get? "status" = none) : Followed s body
  | changed {body later : Json} (h : Followed s body)
    (hs : later.get? "status" = body.get? "status") : Followed s later
  | reported {body : Json} (h : Followed s body) (now : Time.Instant) {r : PassResult}
    (hr : r.outcome = .requeue ↔ r.namespaceCreated = true) :
    Followed s (afterReport s now body (r.on body)).1

section Runs

variable {s : Settings} {body : Json}

theorem PassResult.body_isSome_of_patch {now : Time.Instant} {r : PassResult} {patch : Json}
    (h : (r.on body).patch s now = .ok (some patch)) : r.body.isSome = true := by
  cases hb : r.body with
  | some seen => rfl
  | none =>
    rw [patch_of_body_eq_none (body_on_of_none hb body)] at h
    exact absurd h (by simp)

theorem afterReport_writes (s : Settings) (now : Time.Instant) (body : Json) (r : PassResult) :
    let out := afterReport s now body (r.on body)
    (out.1 = body ∧ ∀ patch, out.2 ≠ .ok (some patch)) ∨
      ∃ patch happened new, out.2 = .ok (some patch) ∧
        (r.on body).Writes s now body.status out.1.status happened new := by
  simp only [afterReport]
  cases hp : (r.on body).patch s now with
  | error fault => exact .inl ⟨rfl, by simp⟩
  | ok written =>
    cases written with
    | none => exact .inl ⟨rfl, by simp⟩
    | some patch =>
      have hb : r.body.isSome = true := PassResult.body_isSome_of_patch hp
      obtain ⟨status, changes, happened, new, rfl, hstatus, ⟨fields, hbody⟩, hwrites⟩ :=
        PassResult.writes_of_patch (PassResult.body_on_of_isSome hb body) hp
      refine .inr ⟨_, happened, new, rfl, ?_⟩
      rw [Json.status] at hstatus
      simp only [mergeStatus, hstatus]
      subst hbody
      rw [Json.status_set_self]
      exact hwrites

theorem Followed.tracks (h : Followed s body) : body.status.TracksReadiness := by
  -- On the run: at its start there is no log, and no change touches it.
  induction h with
  | start hs =>
    rw [Json.status, hs]
    refine ⟨⟨fun {pre post} heq => ?_, fun _ => ?_⟩, Nat.zero_le _⟩
    · exact absurd heq (by simp [Json.events, Json.entries, Json.ofOption, Json.get?, Json.listed])
    · simp [EndsInSetback, Json.events, Json.entries, Json.ofOption, Json.get?, Json.listed]
  | changed _ hs ih =>
    rw [Json.status, hs]
    exact ih
  | reported _ now hr ih =>
    obtain ⟨hsame, -⟩ | ⟨-, happened, new, -, hwrites⟩ := afterReport_writes s now _ _
    · rw [hsame]
      exact ih
    · exact hwrites.tracks hr ih

end Runs

/-- The log after any reports on a tenant that came in without a status, and what one more makes of
it. A report that is written puts what it tells of behind the log, readiness among it if and only if
the tenant is ready now and was not before. -/
theorem tenantReady_marks_transitions (s : Settings) {body : Json} (h : Followed s body) :
    MarksTransitions body.status.events ∧
    ∀ now (r : PassResult), (r.outcome = .requeue ↔ r.namespaceCreated = true) →
      let out := afterReport s now body (r.on body)
      ((∀ patch, out.2 ≠ .ok (some patch)) → out.1 = body) ∧
      (∀ patch, out.2 = .ok (some patch) → ∃ happened new,
        (r.on body).Writes s now body.status out.1.status happened new ∧
        out.1.status.entries = lastOf Activity.limit (body.status.entries ++ new) ∧
        new <:+ out.1.status.entries ∧
        ("TENANT_READY" ∈ new.map Json.event ↔
          body.status.isReady = false ∧ out.1.status.isReady = true)) ∧
      (∀ patch, out.2 = .ok patch → r.body.isSome = true →
        (out.1.status.isReady = true ↔ r.outcome = .converged)) := by
  have htracks := h.tracks
  refine ⟨htracks.heralds.marks, fun now r hr => ?_⟩
  intro out
  obtain ⟨hsame, hunwritten⟩ | ⟨written, happened, new, hwritten, hwrites⟩ :=
    afterReport_writes s now body r
  · refine ⟨fun _ => hsame, fun patch hp => absurd hp (hunwritten patch), fun patch hp hb => ?_⟩
    obtain ⟨hpatch, -⟩ := patch_of_afterReport hp
    cases patch with
    | some written => exact absurd hp (hunwritten written)
    | none =>
      have hphase := PassResult.phase_of_patch_none (PassResult.body_on_of_isSome hb body) hpatch
      rw [hsame, Json.isReady_of_phase hphase, decide_eq_true_iff]
      rfl
  · refine ⟨fun hnone => absurd hwritten (hnone written), fun _ _ => ?_, fun _ _ _ => ?_⟩
    · exact ⟨happened, new, hwrites, hwrites.entries_eq htracks.short, hwrites.suffix,
        hwrites.tenantReady_mem hr⟩
    · rw [Json.isReady_of_phase hwrites.phase, decide_eq_true_iff]
      rfl

/-- A tenant that becomes ready, fails and becomes ready again. -/
theorem tenantReady_marks_transitions_again :
    let s : Settings := {}
    let pass (outcome : Outcome) (created : List String) : PassResult :=
      { outcome := outcome, name := .str "a", body := some (plainTenant "a"),
        namespaceCreated := decide (outcome = .requeue), created := created }
    let report (body : Json) (now : Time.Instant) (r : PassResult) : Json :=
      (afterReport s now body (r.on body)).1
    let opened := report (plainTenant "a") 0 (pass .requeue [])
    let made := report opened 60 (pass .converged ["Secret/db-admin"])
    let failed := report made 120 (pass .fatal [])
    let again := report failed 180 (pass .converged [])
    Followed s again ∧ MarksTransitions again.status.events ∧
      again.status.events = ["NAMESPACE_CREATED", "RESOURCES_CREATED", "TENANT_READY",
        "RECONCILE_FAILED", "TENANT_READY"] ∧
      ∃ new, new <:+ again.status.entries ∧ "TENANT_READY" ∈ new.map Json.event := by
  intro s pass report opened made failed again
  have hopened : Followed s opened := .reported (.start rfl) 0 (by decide)
  have hmade : Followed s made := .reported hopened 60 (by decide)
  have hfailed : Followed s failed := .reported hmade 120 (by decide)
  have hagain : Followed s again := .reported hfailed 180 (by decide)
  have hwritten : ((afterReport s 180 failed ((pass .converged []).on failed)).2.toOption.any
      Option.isSome) = true := by decide +kernel
  obtain ⟨written, hout, hsome⟩ := (Option.any_eq_true _ _).1 hwritten
  obtain ⟨patch, rfl⟩ := Option.isSome_iff_exists.1 hsome
  obtain ⟨-, hreport, -⟩ :=
    (tenantReady_marks_transitions s hfailed).2 180 (pass .converged []) (by decide)
  obtain ⟨happened, new, -, -, hnew, hready⟩ := hreport patch (eq_ok_of_toOption hout)
  exact ⟨hagain, (tenantReady_marks_transitions s hagain).1, by decide +kernel, new, hnew,
    hready.2 (by decide +kernel)⟩

end MoodleTenancy
