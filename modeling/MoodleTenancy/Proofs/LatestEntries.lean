import Mathlib.Data.List.DropRight
import MoodleTenancy.Proofs.Transitions

/-!
# The latest entries of a log

A log is a window on what it held at first and on all that was put behind that: of the two together
it holds the latest. A report puts one or two entries behind it, or none. Only a result that no pass
comes to has three things to tell.

* `Happening`: something that happened, at a time that can be written.
* `Happening.recordAll_arr`: what a run of them leaves in a log.
* `PassResult.Records`: what a patch tells of, and what is in its log.
* `PassResult.records_of_patch`: every patch tells of one list of activities.
* `PassResult.TellsOfAll`: when there are three of them.
* `Operator.not_tellsOfAll_reconcile`: a pass never comes to that.
* `log_keeps_latest`: runs of happenings, patches and passes.
-/

namespace MoodleTenancy
set_option autoImplicit false

theorem lastOf_eq_rtake {α : Type} (n : Nat) (l : List α) : lastOf n l = l.rtake n := rfl

/-! ## Runs of happenings -/

/-- Something that happened, at a time that can be written. -/
structure Happening where
  moment : Time.Instant
  time : String
  written : stamp moment = .ok time
  activity : Activity

namespace Happening

def entry (h : Happening) : Json := h.activity.entryAt h.time

/-- Puts it behind a log. -/
def record (h : Happening) (log : Json) : Except Fault Json := h.activity.append h.moment log

def recordAll (happenings : List Happening) (log : Json) : Except Fault Json :=
  happenings.foldlM (fun log h => h.record log) log

theorem record_arr (h : Happening) (entries : List Json) :
    h.record (.arr entries) = .ok (.arr ((entries ++ [h.entry]).rtake 15)) := by
  have made : h.activity.entry h.moment = .ok h.entry := by
    unfold Activity.entry
    rw [h.written]
    rfl
  unfold record
  rw [Activity.append_arr, made]
  rfl

theorem recordAll_cons_arr (h : Happening) (later : List Happening) (entries : List Json) :
    recordAll (h :: later) (.arr entries) =
      recordAll later (.arr ((entries ++ [h.entry]).rtake 15)) := by
  unfold recordAll
  rw [List.foldlM_cons, record_arr]
  rfl

theorem recordAll_arr (first : Happening) (later : List Happening) (start : List Json) :
    recordAll (first :: later) (.arr start) =
      .ok (.arr ((start ++ (first :: later).map entry).rtake 15)) := by
  -- On what comes later: what the first one drops from the log, the others would have dropped.
  induction later generalizing first start with
  | nil =>
    rw [recordAll_cons_arr]
    rfl
  | cons second later ih =>
    have dropped := lastOf_append 15 (start ++ [first.entry]) ((second :: later).map entry)
    rw [lastOf_eq_rtake, lastOf_eq_rtake, lastOf_eq_rtake] at dropped
    rw [recordAll_cons_arr, ih, dropped, List.append_assoc]
    rfl

end Happening

/-! ## Logs of patches -/

/-- The log in the status of a body; one that does not count as given is empty. -/
def Json.log (body : Json) : Json :=
  (ofOption (body.status.get? "activityLog")).orElse (.arr [])

/-- The time of writing stands beside all that a patch says. -/
theorem Json.get?_stamped {key : String} (hkey : key ≠ "lastUpdated") (time : Json)
    (fields : Fields) :
    (Json.obj (Fields.set "lastUpdated" time fields)).get? key = Fields.get? key fields := by
  have hne : (Key.text "lastUpdated").identity ≠ (Key.text key).identity := by
    simpa using Ne.symm hkey
  rw [Json.get?_obj, Fields.get?_set_ne hne]

/-- Conditions leave the log alone. -/
theorem StatusDraft.log_eq_of_silent {now : Time.Instant} {events : List StatusEvent}
    {d after : StatusDraft} (h : events.foldlM (StatusDraft.say now) d = .ok after)
    (hs : events.filterMap StatusEvent.activity? = []) : after.log = d.log := by
  induction events generalizing d with
  | nil =>
    obtain rfl := Except.ok.inj h
    rfl
  | cons e rest ih =>
    obtain ⟨next, hnext, hrest⟩ := Except.bind_eq_ok_iff.1 h
    cases e with
    | condition c =>
      obtain ⟨items, shown, -, -, rfl⟩ := PassResult.say_condition_eq_ok.1 hnext
      rw [ih hrest hs]
    | activity a => exact absurd hs (List.cons_ne_nil _ _)
    | failure attempt why => exact absurd hs (List.cons_ne_nil _ _)

namespace PassResult

/-- What a patch tells of, and what that makes of the log of the body. A failure is told by the
number that is in the patch. -/
structure Records (s : Settings) (now : Time.Instant) (r : PassResult) (body patch : Json)
    (told : List Activity) : Prop where
  failed : r.outcome = .fatal → ∃ count attempt, patch.get? "retryCount" = some count ∧
    count.writtenOut = .ok attempt ∧ told = [⟨"RECONCILE_FAILED",
      "Attempt " ++ attempt ++ ": " ++ Text.firstChars 150 r.faultText⟩]
  done : r.outcome ≠ .fatal → told = r.activities s 0 body.status.isReady
  unmoved : told = [] → patch.get? "activityLog" = some body.log
  moved : told ≠ [] → ∃ entries new, body.log = .arr entries ∧
    List.Forall₂ EntryOf (told.map (now, ·)) new ∧
    patch.get? "activityLog" = some (.arr ((entries ++ new).rtake 15))

/-- A namespace and objects in it were made at once, for a tenant that was not ready. -/
def TellsOfAll (r : PassResult) (body : Json) : Prop :=
  r.outcome = .converged ∧ r.namespaceCreated = true ∧ r.created ≠ [] ∧
    body.status.isReady = false

section Patches

variable {s : Settings} {now : Time.Instant} {r : PassResult} {body patch : Json}
  {told : List Activity}

theorem records_of_patch (h : r.patch s now = .ok (some patch)) :
    ∃ body told, r.body = some body ∧ r.Records s now body patch told := by
  obtain ⟨body, hb⟩ : ∃ body, r.body = some body := by
    refine Option.ne_none_iff_exists'.1 fun hnone => ?_
    rw [patch_of_body_eq_none hnone] at h
    exact absurd h (by simp)
  obtain ⟨status, written, hstatus, hwritten, ⟨-, hnone⟩ | ⟨time, hpatch⟩⟩ := patch_eq_ok hb h
  · exact absurd hnone (by simp)
  obtain rfl := Option.some.inj hpatch
  obtain ⟨fields, generation, report, draft, hfields, hreport, hdraft, rfl⟩ :=
    statusFields_eq_ok hwritten
  obtain ⟨told, new, hactivities, hmade, hlog⟩ := StatusDraft.logs_of_foldlM hdraft
  obtain ⟨-, rfl⟩ := Json.eq_obj_of_field hstatus
  obtain ⟨-, -, hcount, -, hwrote⟩ := r.get?_fieldsOf (s := s) generation report draft
  rw [← Json.get?_stamped (by decide) (.str time)] at hcount hwrote
  have hbefore : (draftOf fields).log = body.log := by
    unfold Json.log Json.status
    rw [Json.get?_of_orElse hfields]
    rfl
  have hready : (Json.ofOption (Fields.get? "phase" fields)).isText Outcome.converged.phase =
      body.status.isReady := by
    rw [← Json.isReady_eq, Json.status, Json.get?_of_orElse hfields]
  refine ⟨body, told, hb, fun hf => ?_, fun hf => ?_, fun hnone => ?_, fun hsome => ?_⟩
  · obtain ⟨attempt, hattempt, hfailed⟩ := failed_of_logs hf hreport hactivities
    exact ⟨report.retryCount, attempt, hcount, hattempt, hfailed⟩
  · rw [report_of_ne_fatal_eq hf] at hreport
    rw [(said_of_report hreport hactivities).2.2, hready]
  · rw [hnone] at hactivities
    rw [hwrote, StatusDraft.log_eq_of_silent hdraft hactivities, hbefore]
  · obtain ⟨rfl, -⟩ | ⟨entries, hentries, hlast⟩ := hlog
    · have hempty : told = [] := by simpa using hmade
      exact absurd hempty hsome
    · rw [hbefore] at hentries
      exact ⟨entries, new, hentries, hmade, by rw [hwrote, hlast]; rfl⟩

/-- There are at most three things to tell of. -/
theorem Records.length_told (h : r.Records s now body patch told) :
    told.length ≤ 3 ∧ (told.length = 3 ↔ r.TellsOfAll body) := by
  unfold TellsOfAll
  cases ho : r.outcome with
  | fatal =>
    obtain ⟨count, attempt, -, -, rfl⟩ := h.failed ho
    simp
  | requeue =>
    rw [h.done (by rw [ho]; decide), activities, ho, openings]
    cases r.namespaceCreated <;> simp
  | converged =>
    rw [h.done (by rw [ho]; decide), activities, ho, openings]
    cases r.namespaceCreated <;> cases body.status.isReady <;> cases r.created <;> simp

end Patches

end PassResult

/-! ## Passes -/

namespace Operator

variable {σ : Type} [ApiServer σ] {op : Operator} {r : PassResult} {t : Declaration} {body : Json}
  {w : World σ}

theorem namespaceCreated_supplyAll :
    (op.supplyAll r t w).1.namespaceCreated = r.namespaceCreated := by
  unfold supplyAll PassResult.abort
  dsimp only
  split <;> rfl

/-- A pass that has made the namespace waits. -/
theorem namespaceCreated_maintain (hr : r.namespaceCreated = false) :
    (op.maintain r body w).1.outcome = .converged →
      (op.maintain r body w).1.namespaceCreated = false := by
  unfold maintain
  dsimp only
  split
  · exact fun _ => hr
  · split
    · exact fun _ => hr
    · exact nofun
    · intro _
      rw [namespaceCreated_supplyAll]
      exact hr

theorem namespaceCreated_reconcileBody (hr : r.namespaceCreated = false) :
    (op.reconcileBody r body w).1.outcome = .converged →
      (op.reconcileBody r body w).1.namespaceCreated = false := by
  unfold reconcileBody
  -- Only a tenant that has or gets the guard comes as far as its namespace.
  split
  case h_1 => exact fun _ => hr
  case h_2 => split <;> exact fun _ => hr
  case h_3 => exact fun _ => hr
  case h_4 => exact namespaceCreated_maintain hr
  case h_5 =>
    split
    · exact fun _ => hr
    · exact namespaceCreated_maintain hr

theorem namespaceCreated_reconcile (name : Json) :
    (op.reconcile name w).1.outcome = .converged →
      (op.reconcile name w).1.namespaceCreated = false := by
  unfold reconcile
  dsimp only
  split
  · exact fun _ => rfl
  · exact fun _ => rfl
  · exact namespaceCreated_reconcileBody rfl

theorem not_tellsOfAll_reconcile (name : Json) (body : Json) :
    ¬ (op.reconcile name w).1.TellsOfAll body := by
  rintro ⟨ho, hmade, -⟩
  rw [namespaceCreated_reconcile name ho] at hmade
  exact Bool.false_ne_true hmade

end Operator

/-! ## All logs -/

/-- A log that was written on holds the latest 15 entries of what it held at first and of what was
put behind that, in order. So does the log of a patch, and one that nothing is put behind is left as
it is. A patch tells of at most three things, and of two at most after a pass. -/
theorem log_keeps_latest :
    (∀ (start : List Json) (happenings : List Happening), happenings ≠ [] →
      Happening.recordAll happenings (.arr start) =
        .ok (.arr ((start ++ happenings.map Happening.entry).rtake 15))) ∧
    (∀ (s : Settings) (now : Time.Instant) (r : PassResult) (patch : Json),
      r.patch s now = .ok (some patch) → ∃ body told, r.body = some body ∧
        r.Records s now body patch told ∧ told.length ≤ 3 ∧
        (told.length = 3 ↔ r.TellsOfAll body)) ∧
    ∀ {σ : Type} [ApiServer σ] (op : Operator) (name : Json) (w : World σ) (body : Json),
      ¬ (op.reconcile name w).1.TellsOfAll body := by
  refine ⟨fun start happenings hsome => ?_, fun s now r patch hp => ?_, ?_⟩
  · obtain ⟨first, later, rfl⟩ := List.exists_cons_of_ne_nil hsome
    exact Happening.recordAll_arr first later start
  · obtain ⟨body, told, hb, hrecords⟩ := PassResult.records_of_patch hp
    exact ⟨body, told, hb, hrecords, hrecords.length_told⟩
  · intro σ _ op name w body
    exact op.not_tellsOfAll_reconcile name body

/-- A log of 17 entries, and a status with a log of 15 that a pass has two things to tell to. -/
theorem log_keeps_latest_overfull :
    let happening : Happening := ⟨0, "1970-01-01T00:00:00Z", rfl, ⟨"EVENT", "1"⟩⟩
    let body := (plainTenant "a").set "status" (.obj [("activityLog", .arr (.replicate 15 .null))])
    let r : PassResult := { outcome := .converged, name := .str "a", body := some body,
                            created := ["Service/a-service"] }
    Happening.recordAll [happening] (.arr (.replicate 17 .null)) =
        .ok (.arr (List.replicate 14 .null ++ [happening.entry])) ∧
      ∃ patch first second, r.patch {} 0 = .ok (some patch) ∧
        patch.get? "activityLog" = some (.arr (List.replicate 13 .null ++ [first, second])) := by
  intro happening body r
  obtain ⟨runs, patches, -⟩ := log_keeps_latest
  refine ⟨runs (.replicate 17 .null) [happening] (List.cons_ne_nil _ _), ?_⟩
  obtain ⟨patch, hp⟩ : ∃ patch, r.patch {} 0 = .ok (some patch) := ⟨_, rfl⟩
  obtain ⟨_, told, hb, hrecords, -⟩ := patches {} 0 r patch hp
  obtain rfl := Option.some.inj hb
  have htold : told = [.resourcesCreated ["Service/a-service"], .tenantReady ""] :=
    hrecords.done (by decide)
  obtain ⟨entries, new, hentries, hmade, hlog⟩ := hrecords.moved (by rw [htold]; simp)
  obtain rfl : .replicate 15 .null = entries := Json.arr.inj hentries
  rw [htold] at hmade
  obtain ⟨first, later, -, hlater, rfl⟩ := List.forall₂_cons_left_iff.1 hmade
  obtain ⟨second, rest, -, hrest, rfl⟩ := List.forall₂_cons_left_iff.1 hlater
  obtain rfl := List.forall₂_nil_left_iff.1 hrest
  exact ⟨patch, first, second, hp, hlog⟩

/-- A namespace and a service in it that were made at once, for a tenant without a status. There are
three entries in the log, and they are not the latest of any two. -/
theorem three_told :
    let r : PassResult := { outcome := .converged, name := .str "a", body := some (plainTenant "a"),
                            namespaceCreated := true, created := ["Service/a-service"] }
    ∃ patch log, r.patch {} 0 = .ok (some patch) ∧
      (plainTenant "a").log = .arr [] ∧ patch.get? "activityLog" = some (.arr log) ∧
      log.map Json.event = ["NAMESPACE_CREATED", "RESOURCES_CREATED", "TENANT_READY"] ∧
      ∀ new : List Json, new.length ≤ 2 → log ≠ ([] ++ new).rtake 15 := by
  intro r
  refine ⟨_, _, rfl, rfl, rfl, rfl, fun new hnew hlog => ?_⟩
  have hlength : 3 = (([] ++ new).rtake 15).length := congrArg List.length hlog
  rw [List.nil_append, List.rtake, List.length_drop] at hlength
  omega

end MoodleTenancy
