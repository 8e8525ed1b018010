import MoodleTenancy.Proofs.Coherence
import MoodleTenancy.Proofs.Quiescence
import MoodleTenancy.Proofs.Upkeep

/-!
# What one report writes

Whatever a status says, also one that reports have not left so, what one report has to say for the
log stands at the end of it afterwards, and a report of a failure leaves what is said of the
namespace as it is.

* `Json.entries`, `Json.event`, `Json.message`: the log of a status, and what an entry of it tells.
* `StatusDraft.Logs`: what events put behind the log of a draft.
* `Condition.filter_upsert`: the conditions of other types stay.
* `PassResult.Writes`: what a report makes of a status. `PassResult.writes_of_statusFields`,
  `PassResult.writes_of_patch`: every report does, once its patch is laid over the status.
* `Reconciles.stored_of_body`: no pass changes the status by itself.
* `Operator.attend_writes`: what a turn makes of the status that it finds.
-/

namespace MoodleTenancy
set_option autoImplicit false

/-! ## Entries -/

/-- The text under a key, empty if there is none. -/
def Json.text (key : String) (j : Json) : String :=
  match j.get? key with
  | some (.str s) => s
  | _ => ""

/-- What an entry of a log tells of, and what it says of that. -/
def Json.event (entry : Json) : String := entry.text "event"

def Json.message (entry : Json) : String := entry.text "message"

/-- The items of a list; nothing else has any. -/
def Json.listed : Json → List Json
  | .arr items => items
  | _ => []

/-- The log of a status. -/
def Json.entries (status : Json) : List Json := (ofOption (status.get? "activityLog")).listed

theorem Json.listed_orElse (j : Json) : (j.orElse (.arr [])).listed = j.listed := by
  cases j with
  | arr items => rw [orElse_arr]
  | _ =>
    rw [orElse]
    split <;> rfl

theorem suffix_lastOf {α : Type} {n : Nat} {new : List α} (h : new.length ≤ n) (l : List α) :
    new <:+ lastOf n (l ++ new) := by
  have hk : (l ++ new).length - n ≤ l.length := by
    rw [List.length_append]
    omega
  rw [lastOf, List.drop_append_of_le_length hk]
  exact List.suffix_append _ _

namespace EntryOf

variable {now : Time.Instant} {a : Activity} {entry : Json}

theorem eq_entryAt (h : EntryOf (now, a) entry) : ∃ time, entry = a.entryAt time := by
  obtain ⟨time, -, h⟩ := Except.bind_eq_ok_iff.1 h
  exact ⟨time, (Except.ok.inj h).symm⟩

theorem event_eq (h : EntryOf (now, a) entry) : entry.event = a.event := by
  obtain ⟨time, rfl⟩ := h.eq_entryAt
  rfl

theorem message_eq (h : EntryOf (now, a) entry) : entry.message = a.message := by
  obtain ⟨time, rfl⟩ := h.eq_entryAt
  rfl

/-- Entries tell of what happened, in order. -/
theorem events_eq {happened : List Activity} {new : List Json}
    (h : List.Forall₂ EntryOf (happened.map (now, ·)) new) :
    new.map Json.event = happened.map Activity.event := by
  rw [List.forall₂_map_left_iff] at h
  induction h with
  | nil => rfl
  | cons he _ ih => rw [List.map_cons, List.map_cons, he.event_eq, ih]

theorem exists_mem {happened : List (Time.Instant × Activity)} {new : List Json}
    (h : List.Forall₂ EntryOf happened new) {p : Time.Instant × Activity} (hp : p ∈ happened) :
    ∃ e ∈ new, EntryOf p e := by
  induction h with
  | nil => exact absurd hp List.not_mem_nil
  | cons he _ ih =>
    obtain rfl | hp := List.mem_cons.1 hp
    · exact ⟨_, List.mem_cons_self, he⟩
    · obtain ⟨e, hmem, he⟩ := ih hp
      exact ⟨e, List.mem_cons_of_mem _ hmem, he⟩

end EntryOf

/-! ## Logs -/

/-- What events have put behind the log of a draft. Nothing is done to a log that nothing is put
behind, and only a list has anything put behind it. -/
structure StatusDraft.Logs (now : Time.Instant) (events : List StatusEvent) (d after : StatusDraft)
    (happened : List Activity) (new : List Json) : Prop where
  activities : events.filterMap StatusEvent.activity? = happened.map .ok
  made : List.Forall₂ EntryOf (happened.map (now, ·)) new
  log : (new = [] ∧ after.log = d.log) ∨ ∃ entries, d.log = .arr entries ∧
    after.log = .arr (lastOf Activity.limit (entries ++ new))

theorem Activity.append_eq_ok {now : Time.Instant} {a : Activity} {log after : Json}
    (h : a.append now log = .ok after) :
    ∃ entries e, log = .arr entries ∧ EntryOf (now, a) e ∧
      after = .arr (lastOf limit (entries ++ [e])) := by
  cases log with
  | arr entries =>
    obtain ⟨e, he, rfl⟩ := Except.map_eq_ok_iff.1 h
    exact ⟨entries, e, rfl, he, rfl⟩
  | _ => exact absurd h (by simp [append])

namespace StatusDraft

variable {now : Time.Instant} {events : List StatusEvent} {d after : StatusDraft}

theorem Logs.condition {c : Condition} {shown : Json} {happened : List Activity} {new : List Json}
    (h : Logs now events { d with conditions := shown } after happened new) :
    Logs now (.condition c :: events) d after happened new :=
  ⟨h.activities, h.made, h.log⟩

theorem Logs.logged {e : StatusEvent} {a : Activity} {log : Json} {happened : List Activity}
    {new : List Json} (h : Logs now events { d with log := log } after happened new)
    (he : e.activity? = some (.ok a)) (ha : a.append now d.log = .ok log) :
    ∃ new, Logs now (e :: events) d after (a :: happened) new := by
  obtain ⟨entries, entry, hlog, hentry, rfl⟩ := Activity.append_eq_ok ha
  refine ⟨entry :: new, ?_, .cons hentry h.made, .inr ⟨entries, hlog, ?_⟩⟩
  · rw [List.filterMap_cons_some he, h.activities, List.map_cons]
  · obtain ⟨rfl, hafter⟩ | ⟨_, hsame, hafter⟩ := h.log
    · exact hafter
    · obtain rfl := Json.arr.inj hsame
      rw [hafter, lastOf_append, List.append_assoc, List.singleton_append]

theorem logs_of_foldlM (h : events.foldlM (StatusDraft.say now) d = .ok after) :
    ∃ happened new, Logs now events d after happened new := by
  -- On the events: what the first puts behind the log stays there, up to the limit of the log.
  induction events generalizing d with
  | nil =>
    obtain rfl := Except.ok.inj h
    exact ⟨[], [], rfl, .nil, .inl ⟨rfl, rfl⟩⟩
  | cons e rest ih =>
    obtain ⟨next, hnext, hrest⟩ := Except.bind_eq_ok_iff.1 h
    obtain ⟨happened, new, hlogs⟩ := ih hrest
    cases e with
    | condition c =>
      obtain ⟨items, shown, -, -, rfl⟩ := PassResult.say_condition_eq_ok.1 hnext
      exact ⟨happened, new, hlogs.condition⟩
    | activity a =>
      obtain ⟨log, hlog, hnext⟩ := Except.bind_eq_ok_iff.1 hnext
      obtain rfl := Except.ok.inj hnext
      obtain ⟨new, hall⟩ := hlogs.logged (e := .activity a) rfl hlog
      exact ⟨_, new, hall⟩
    | failure attempt why =>
      obtain ⟨a, ha, hnext⟩ := Except.bind_eq_ok_iff.1 hnext
      obtain ⟨log, hlog, hnext⟩ := Except.bind_eq_ok_iff.1 hnext
      obtain rfl := Except.ok.inj hnext
      obtain ⟨new, hall⟩ := hlogs.logged (e := .failure attempt why) (congrArg some ha) hlog
      exact ⟨_, new, hall⟩

end StatusDraft

/-! ## Conditions of a type -/

def Json.isOf (type : String) (stored : Json) : Bool := (ofOption (stored.get? "type")).isText type

theorem Json.conditionsOf_eq (type : String) (status : Json) :
    status.conditionsOf type = (ofOption (status.get? "conditions")).listed.filter (isOf type) := by
  rw [conditionsOf]
  cases status.get? "conditions" with
  | none => rfl
  | some v => cases v <;> rfl

namespace Condition

variable {c : Condition} {now : Time.Instant} {type : String}

/-- Bringing one condition up to date leaves those of other types alone. -/
theorem filter_upsert (hne : c.type ≠ type) {items after : List Json}
    (h : c.upsert now items = .ok after) :
    after.filter (Json.isOf type) = items.filter (Json.isOf type) := by
  induction items generalizing after with
  | nil =>
    obtain ⟨j, hj, rfl⟩ := Except.map_eq_ok_iff.1 h
    obtain ⟨time, rfl⟩ := fresh_eq_ok hj
    rw [List.filter_cons_of_neg]
    simpa [Json.isOf, Fields.get?, Json.ofOption, Json.isText] using hne
  | cons stored rest ih =>
    obtain ⟨fields, rfl, ⟨htype, updated, hr, rfl⟩ | ⟨-, later, hlater, rfl⟩⟩ :=
      upsert_cons_eq_ok h
    · have hbefore : Json.isOf type (.obj fields) = false := by
        simpa [Json.isOf, htype, Json.ofOption, Json.isText] using hne
      have hafter : Json.isOf type (.obj updated) = false := by
        simpa [Json.isOf, hr.type, htype, Json.ofOption, Json.isText] using hne
      rw [List.filter_cons_of_neg (by simp [hafter]), List.filter_cons_of_neg (by simp [hbefore])]
    · rw [List.filter_cons, List.filter_cons, ih hlater]

/-- Conditions can be brought up to date in a list, or in what has no items at all. -/
theorem listed_of_upsert {conditions : Json} {items after : List Json}
    (hi : conditions.itemsOf = .ok items) (h : c.upsert now items = .ok after) :
    conditions.listed = items := by
  have hempty : ∀ {α : Type} (l : List α) (f : α → Json), (∀ a, ∀ fields, f a ≠ .obj fields) →
      l.map f = items → [] = items := by
    rintro α l f hf rfl
    cases l with
    | nil => rfl
    | cons a rest =>
      obtain ⟨fields, habsurd, -⟩ := upsert_cons_eq_ok h
      exact absurd habsurd (hf a fields)
  cases conditions with
  | arr stored => exact Except.ok.inj hi
  | str s => exact hempty s.toList _ (by simp) (Except.ok.inj hi)
  | obj fields =>
    refine hempty fields _ (fun f _ => ?_) (Except.ok.inj hi)
    cases f.1 <;> simp [Json.ofKey]
  | _ => exact absurd hi (by simp [Json.itemsOf])

end Condition

/-! ## Reports -/

namespace PassResult

/-- What a report makes of a status. It tells the phase and what happened, and a report of a failure
tells of nothing else and leaves what is said of the namespace alone. -/
structure Writes (s : Settings) (now : Time.Instant) (r : PassResult) (before after : Json)
    (happened : List Activity) (new : List Json) : Prop where
  phase : after.get? "phase" = some (.str r.outcome.phase)
  done : r.outcome ≠ .fatal → happened = r.activities s 0
    ((Json.ofOption (before.get? "phase")).isText Outcome.converged.phase)
  failed : r.outcome = .fatal → ∃ attempt, happened = [⟨"RECONCILE_FAILED",
    "Attempt " ++ attempt ++ ": " ++ Text.firstChars 150 r.faultText⟩]
  made : List.Forall₂ EntryOf (happened.map (now, ·)) new
  log : (new = [] ∧ after.entries = before.entries) ∨
    after.entries = lastOf Activity.limit (before.entries ++ new)
  namespaceReady : r.outcome = .fatal →
    after.conditionsOf "NamespaceReady" = before.conditionsOf "NamespaceReady"

section Writes

variable {s : Settings} {now : Time.Instant} {r : PassResult} {body previous : Json}
  {status written : Fields} {happened : List Activity} {new : List Json}

theorem report_of_ne_fatal_eq (hf : r.outcome ≠ .fatal) (ns : String) (count phase : Json) :
    r.report ns count phase = r.report ns (.int (0 : Nat)) phase := by
  rw [report, report]
  cases ho : r.outcome with
  | fatal => exact absurd ho hf
  | _ => rfl

theorem events_of_fatal (hf : r.outcome = .fatal) {ns : String} {count phase : Json}
    {report : StatusReport} (hr : r.report ns count phase = .ok report) :
    report.events =
      [.condition r.resources, .failure report.retryCount (Text.firstChars 150 r.faultText)] := by
  rw [PassResult.report, hf] at hr
  obtain ⟨attempt, -, hr⟩ := Except.bind_eq_ok_iff.1 hr
  obtain rfl := Except.ok.inj hr
  rw [resources, hf]

theorem statusFields_eq_ok (h : r.statusFields s now body previous = .ok written) :
    ∃ status generation report draft, previous = .obj status ∧
      r.report (Names.space s r.label) (countOf status)
        (.ofOption (Fields.get? "phase" status)) = .ok report ∧
      report.events.foldlM (StatusDraft.say now) (draftOf status) = .ok draft ∧
      written = r.fieldsOf s generation report draft := by
  simp only [statusFields, Except.bind_eq_ok_iff] at h
  obtain ⟨conditions, hconditions, log, hlog, metadata, -, generation, -, report, hreport, draft,
    hdraft, h⟩ := h
  obtain ⟨status, rfl⟩ := exists_obj_of_before hconditions
  obtain rfl := Except.ok.inj hconditions
  obtain rfl := Except.ok.inj hlog
  exact ⟨status, generation, report, draft, rfl, hreport, hdraft, (Except.ok.inj h).symm⟩

theorem failed_of_logs (hf : r.outcome = .fatal) {ns : String} {count phase : Json}
    {report : StatusReport} (hr : r.report ns count phase = .ok report)
    (ha : report.events.filterMap StatusEvent.activity? = happened.map .ok) :
    ∃ attempt, report.retryCount.writtenOut = .ok attempt ∧ happened = [⟨"RECONCILE_FAILED",
      "Attempt " ++ attempt ++ ": " ++ Text.firstChars 150 r.faultText⟩] := by
  rw [events_of_fatal hf hr] at ha
  obtain ⟨a, rest, rfl, hfailed, hrest⟩ := List.map_eq_cons_iff.1 ha.symm
  obtain ⟨text, htext, ha⟩ := Except.bind_eq_ok_iff.1 hfailed.symm
  obtain rfl := Except.ok.inj ha
  exact ⟨text, htext, by rw [List.map_eq_nil_iff.1 hrest]⟩

theorem conditions_of_fatal (hf : r.outcome = .fatal) {ns : String} {count phase : Json}
    {report : StatusReport} (hr : r.report ns count phase = .ok report) {d draft : StatusDraft}
    (hd : report.events.foldlM (StatusDraft.say now) d = .ok draft) :
    draft.conditions.listed.filter (Json.isOf "NamespaceReady") =
      d.conditions.listed.filter (Json.isOf "NamespaceReady") := by
  rw [events_of_fatal hf hr] at hd
  obtain ⟨said, hsaid, hd⟩ := Except.bind_eq_ok_iff.1 hd
  obtain ⟨items, shown, hitems, hshown, rfl⟩ := say_condition_eq_ok.1 hsaid
  obtain ⟨after, hafter, hd⟩ := Except.bind_eq_ok_iff.1 hd
  obtain ⟨a, -, hafter⟩ := Except.bind_eq_ok_iff.1 hafter
  obtain ⟨log, -, hafter⟩ := Except.bind_eq_ok_iff.1 hafter
  obtain rfl := Except.ok.inj hafter
  obtain rfl := Except.ok.inj hd
  -- A failure states one condition, and it is not that of the namespace.
  have hne : r.resources.type ≠ "NamespaceReady" := by
    rw [r.resources_type]
    decide
  rw [Condition.listed_of_upsert hitems hshown]
  exact Condition.filter_upsert hne hshown

theorem distinct_of_statusFields (h : r.statusFields s now body previous = .ok written) :
    Fields.Distinct written := by
  obtain ⟨status, generation, report, draft, -, -, -, rfl⟩ := statusFields_eq_ok h
  exact distinct_fieldsOf _ _ _

theorem writes_of_statusFields (h : r.statusFields s now body (.obj status) = .ok written) :
    ∃ happened new, r.Writes s now (.obj status) (.obj written) happened new := by
  obtain ⟨_, generation, report, draft, heq, hreport, hdraft, rfl⟩ := statusFields_eq_ok h
  obtain rfl := Json.obj.inj heq
  obtain ⟨happened, new, hactivities, hmade, hlog⟩ := StatusDraft.logs_of_foldlM hdraft
  obtain ⟨hphase, -, -, hheld, hwritten⟩ := r.get?_fieldsOf (s := s) generation report draft
  have hafter : (Json.obj (r.fieldsOf s generation report draft)).entries = draft.log.listed := by
    rw [Json.entries, Json.get?_obj, hwritten]
    rfl
  have hbefore : (Json.obj status).entries = (draftOf status).log.listed :=
    (Json.listed_orElse _).symm
  refine ⟨happened, new, hphase, fun hf => ?_, fun hf => ?_, hmade, ?_, fun hf => ?_⟩
  · rw [report_of_ne_fatal_eq hf] at hreport
    exact (said_of_report hreport hactivities).2.2
  · obtain ⟨attempt, -, hfailed⟩ := failed_of_logs hf hreport hactivities
    exact ⟨attempt, hfailed⟩
  · rw [hafter, hbefore]
    obtain ⟨hnone, hsame⟩ | ⟨entries, hentries, hlast⟩ := hlog
    · exact .inl ⟨hnone, by rw [hsame]⟩
    · exact .inr (by rw [hentries, hlast]; rfl)
  · rw [Json.conditionsOf_eq, Json.conditionsOf_eq, Json.get?_obj, Json.get?_obj, hheld]
    rw [← Json.listed_orElse (.ofOption (Fields.get? "conditions" status))]
    exact conditions_of_fatal hf hreport hdraft

/-- Only a few parts of a status are looked at. -/
theorem Writes.congr {before' after' : Json} {before after : Json}
    (h : r.Writes s now before after happened new)
    (hb : ∀ key : String, before'.get? key = before.get? key)
    (ha : ∀ key ∈ ["phase", "activityLog", "conditions"],
      after'.get? (.text key) = after.get? (.text key)) :
    r.Writes s now before' after' happened new where
  phase := by rw [ha _ (by simp), h.phase]
  done := by
    rw [hb]
    exact h.done
  failed := h.failed
  made := h.made
  log := by
    simp only [Json.entries, ha "activityLog" (by simp), hb]
    exact h.log
  namespaceReady := by
    simp only [Json.conditionsOf, ha "conditions" (by simp), hb]
    exact h.namespaceReady

theorem length_activities (s : Settings) (failures : Nat) (wasReady : Bool) (r : PassResult) :
    (r.activities s failures wasReady).length ≤ 3 := by
  have hopen : (r.openings s).length ≤ 1 := by
    rw [openings]
    split <;> simp
  rw [activities]
  cases r.outcome with
  | fatal => simp
  | requeue =>
    show (r.openings s).length ≤ 3
    omega
  | converged =>
    have hmade : ∀ (p : Prop) [Decidable p] (a : Activity),
        (if p then [] else [a]).length ≤ 1 := by
      intro p _ a
      split <;> simp
    have hcreated := hmade (r.created.isEmpty = true) (.resourcesCreated r.created)
    have hready := hmade (wasReady = true) (.tenantReady (r.url.getD ""))
    simp only [List.length_append]
    omega

theorem Writes.length_le {before after : Json} (h : r.Writes s now before after happened new) :
    new.length ≤ 3 := by
  rw [← h.made.length_eq, List.length_map]
  by_cases hf : r.outcome = .fatal
  · obtain ⟨attempt, rfl⟩ := h.failed hf
    simp
  · rw [h.done hf]
    exact length_activities s 0 _ r

/-- What a report puts into the log is there afterwards, all of it. -/
theorem Writes.suffix {before after : Json} (h : r.Writes s now before after happened new) :
    new <:+ after.entries := by
  obtain ⟨rfl, -⟩ | hlog := h.log
  · exact List.nil_suffix
  · rw [hlog]
    exact suffix_lastOf (Nat.le_trans h.length_le (by decide)) _

theorem get?_merged (hd : Fields.Distinct written) {key : String} (hkey : key ≠ "lastUpdated")
    (hw : (Fields.get? key written).isSome = true) (time : Json) :
    Fields.get? key (Fields.overlay status (Fields.set "lastUpdated" time written)) =
      Fields.get? key written := by
  have hne : (Key.text "lastUpdated").identity ≠ (Key.text key).identity := by
    simpa using Ne.symm hkey
  obtain ⟨v, hv⟩ := Option.isSome_iff_exists.1 hw
  rw [Fields.get?_overlay status (hd.set _ _), Fields.get?_set_ne hne, hv, Option.some_or]

end Writes

end PassResult

/-! ## Patches -/

theorem Json.get?_of_orElse {j : Json} {fields : Fields} (h : j.orElse (.obj []) = .obj fields)
    (key : Key) : j.get? key = Fields.get? key fields := by
  rw [orElse] at h
  split at h
  · rw [h, get?_obj]
  · rename_i hfalsy
    obtain rfl : [] = fields := Json.obj.inj h
    cases j with
    | obj there =>
      obtain rfl : there = [] := by simpa [isTruthy] using hfalsy
      rfl
    | _ => rfl

theorem Json.eq_obj_of_field {body v : Json} {key : String} (h : body.field key = .ok v) :
    (∃ fields, body = .obj fields) ∧ v = ofOption (body.get? key) := by
  cases body with
  | obj fields => exact ⟨⟨fields, rfl⟩, (Except.ok.inj h).symm⟩
  | _ => exact absurd h (by simp [field])

/-- The status of a body, null if it has none. -/
def Json.status (body : Json) : Json := ofOption (body.get? "status")

theorem Json.status_set_self (fields : Fields) (v : Json) :
    ((Json.obj fields).set "status" v).status = v := by
  rw [status, set_obj, get?_obj, Fields.get?_set_self]
  rfl

namespace PassResult

variable {s : Settings} {now : Time.Instant} {r : PassResult} {body : Json}

/-- The phase is as it is to be where nothing is written. -/
theorem phase_of_patch_none (hb : r.body = some body) (h : r.patch s now = .ok none) :
    body.status.get? "phase" = some (.str r.outcome.phase) := by
  obtain ⟨status, written, hstatus, hwritten, ⟨hunchanged, -⟩ | ⟨time, habsurd⟩⟩ := patch_eq_ok hb h
  · obtain ⟨fields, generation, report, draft, hfields, -, -, rfl⟩ := statusFields_eq_ok hwritten
    obtain ⟨hphase, -⟩ := r.get?_fieldsOf (s := s) generation report draft
    obtain ⟨-, rfl⟩ := Json.eq_obj_of_field hstatus
    rw [hfields] at hunchanged
    rw [Json.status, Json.get?_of_orElse hfields]
    exact Json.eq_some_of_ofOption (Json.same_str.1 (same_of_unchanged hunchanged hphase)) (by simp)
  · exact absurd habsurd (by simp)

/-- A patch that is laid over the status that it was made for. -/
theorem writes_of_patch (hb : r.body = some body) {patch : Json}
    (h : r.patch s now = .ok (some patch)) :
    ∃ status changes happened new, patch = .obj changes ∧
      body.status.orElse (.obj []) = .obj status ∧
      (∃ fields, body = .obj fields) ∧
      r.Writes s now body.status (.obj (Fields.overlay status changes)) happened new := by
  obtain ⟨status, written, hstatus, hwritten, ⟨-, habsurd⟩ | ⟨time, hpatch⟩⟩ := patch_eq_ok hb h
  · exact absurd habsurd (by simp)
  obtain rfl := Option.some.inj hpatch
  obtain ⟨hbody, rfl⟩ := Json.eq_obj_of_field hstatus
  obtain ⟨fields, generation, report, draft, hfields, -, -, hform⟩ := statusFields_eq_ok hwritten
  have hdistinct := distinct_of_statusFields hwritten
  rw [hfields] at hwritten
  obtain ⟨happened, new, hwrites⟩ := writes_of_statusFields hwritten
  refine ⟨fields, _, happened, new, rfl, hfields, hbody, hwrites.congr (fun key => ?_) ?_⟩
  · exact Json.get?_of_orElse hfields key
  · intro key hkey
    obtain ⟨hphase, -, -, hconditions, hlog⟩ := r.get?_fieldsOf (s := s) generation report draft
    rw [Json.get?_obj, Json.get?_obj]
    simp only [List.mem_cons, List.not_mem_nil, or_false] at hkey
    obtain rfl | rfl | rfl := hkey
    · exact get?_merged hdistinct (by decide) (by rw [hform, hphase]; rfl) _
    · exact get?_merged hdistinct (by decide) (by rw [hform, hlog]; rfl) _
    · exact get?_merged hdistinct (by decide) (by rw [hform, hconditions]; rfl) _

end PassResult

namespace MemoryCluster

variable {s : Settings} {now : Time.Instant} {r : PassResult} {n : String} {c : MemoryCluster}
  {kept : StoredTenant} {patch : Json}

/-- A patch is refused or laid over the status. -/
theorem patchTenantStatus_writes (hk : c.tenants.get? (.text n) = some kept)
    (hb : r.body = some kept.body) (hp : r.patch s now = .ok (some patch)) :
    let out := (patchTenantStatus (.str n) patch).run c
    out.2.objects = c.objects ∧
      ((∃ fault, out.1 = .error fault ∧ out.2.tenants = c.tenants) ∨
        (out.1 = .ok () ∧ ∃ later happened new, out.2.tenants.get? (.text n) = some later ∧
          r.Writes s now kept.body.status later.body.status happened new)) := by
  intro out
  obtain ⟨status, changes, happened, new, rfl, hstatus, ⟨fields, hbody⟩, hwrites⟩ :=
    PassResult.writes_of_patch hb hp
  have hrun := @run_patchTenantStatus c (.str n) (.obj changes)
  rw [TenantKey.of_str] at hrun
  cases hfailure : c.failures.get? (.patchTenantStatus, none) with
  | some fault =>
    simp only [hfailure] at hrun
    simp only [out, hrun]
    exact ⟨rfl, .inl ⟨fault, rfl, rfl⟩⟩
  | none =>
    simp only [hfailure, hk] at hrun
    cases hthere : statusFields kept.body with
    | error fault =>
      simp only [hthere] at hrun
      simp only [out, hrun]
      exact ⟨rfl, .inl ⟨fault, rfl, rfl⟩⟩
    | ok there =>
      -- The patch is laid over the fields that it was made of.
      have hfield : kept.body.field "status" = .ok kept.body.status := by rw [hbody]; rfl
      obtain rfl := statusFields_eq hfield hstatus hthere
      simp only [hthere, Fields.absorb_obj] at hrun
      simp only [out, hrun]
      refine ⟨rfl, .inr ⟨trivial, ⟨kept.name, _⟩, happened, new, Table.get?_insert_self _ _ _, ?_⟩⟩
      rw [hbody, Json.status_set_self]
      exact hbody ▸ hwrites

end MemoryCluster

/-! ## Passes -/

theorem Json.eq_of_toOption {j b : Json} (h : j.toOption = some b) : b = j := by
  cases j with
  | null => exact absurd h (by simp [toOption])
  | _ => exact (Option.some.inj h).symm

section Passes

variable {op : Operator} {n : String} {c d : MemoryCluster} {r : PassResult}

theorem Maintains.body_eq {name body b : Json} (h : Maintains op (.start name) body c r d)
    (hb : r.body = some b) : b = body := by
  cases h with
  | invalid => exact Json.eq_of_toOption hb
  | unopened => exact Json.eq_of_toOption hb
  | opened => exact Json.eq_of_toOption hb
  | supplied =>
    refine Json.eq_of_toOption ?_
    rw [← hb, PassResult.supplied]
    split <;> rfl

theorem Replaces.status_eq {kept later : StoredTenant} {finalizers : List Json}
    {e : Except Fault Json} (h : Replaces n (Operator.replaceFinalizers kept.body finalizers) c e d)
    (hk : c.tenants.get? (.text n) = some kept) (hl : d.tenants.get? (.text n) = some later) :
    later.body.status = kept.body.status := by
  obtain hsame | ⟨-, hnone⟩ | hnew := h.stored_or hk
  · rw [Option.some.inj (hsame.symm.trans hl)]
  · exact absurd (hnone.symm.trans hl) (by simp)
  · rw [← Option.some.inj (hnew.symm.trans hl), Json.status, Json.status, Json.withVersion,
      Json.get?_setMetadata_ne (by decide), replaceFinalizers_eq,
      Json.get?_setMetadata_ne (by decide)]

theorem Reconciles.status_eq (h : Reconciles op (.str n) c r d) (hn : c.KnowsAs n)
    {kept later : StoredTenant} (hk : c.tenants.get? (.text n) = some kept)
    (hl : d.tenants.get? (.text n) = some later) : later.body.status = kept.body.status := by
  -- A pass writes the tenant to take the guard off or to put it on, and that is not the status.
  have hsame : d.tenants = c.tenants → later.body.status = kept.body.status := by
    intro htenants
    rw [htenants] at hl
    rw [Option.some.inj (hk.symm.trans hl)]
  have hcleaned : ∀ {body : Json} {m : Metadata} {e : Except Fault Json},
      Finds c (.str n) body → metadataOf body = .ok m →
      CleansUp op body m (c.noting (.readingTenant (.str n))) e d →
      later.body.status = kept.body.status := by
    intro body m e hf hm h
    obtain rfl := hn.name_eq hf hm
    obtain rfl := hf.body_eq hk
    cases h with
    | undeleted => exact hsame rfl
    | deleted hf h => exact h.status_eq (by rw [MemoryCluster.emptied_tenants]; exact hk) hl
  cases h with
  | uncleaned hf hm hd hg h => exact hcleaned hf hm h
  | cleaned hf hm hd hg h => exact hcleaned hf hm h
  | guarded hf hm hd hg h => exact hsame h.tenants_eq
  | unguarded hf hm hd hg h => exact hsame h.tenants_of_error
  | newlyGuarded hf hm hd hg h hr =>
    obtain rfl := hn.name_eq hf hm
    obtain rfl := hf.body_eq hk
    rw [hr.tenants_eq] at hl
    exact h.status_eq hk hl
  | _ => exact hsame rfl

/-- The body of a result is the one that is stored once the pass has ended. -/
theorem Reconciles.stored_of_body (h : Reconciles op (.str n) c r d) (hn : c.KnowsAs n)
    {body : Json} (hb : r.body = some body) :
    ∃ before kept, c.tenants.get? (.text n) = some before ∧
      d.tenants.get? (.text n) = some kept ∧ kept.body = body ∧
      body.status = before.body.status := by
  have hthere : ∃ before kept, c.tenants.get? (.text n) = some before ∧
      d.tenants.get? (.text n) = some kept ∧ kept.body = body := by
    cases h with
    | guarded hf hm hd hg h =>
      obtain ⟨kept, hk, rfl⟩ := hf.exists_kept
      exact ⟨kept, kept, hk, by rw [h.tenants_eq]; exact hk, (h.body_eq hb).symm⟩
    | unguarded hf hm hd hg h =>
      obtain ⟨kept, hk, rfl⟩ := hf.exists_kept
      exact ⟨kept, kept, hk, by rw [h.tenants_of_error]; exact hk, Option.some.inj hb⟩
    | newlyGuarded hf hm hd hg h hr =>
      obtain rfl := hn.name_eq hf hm
      obtain rfl := h.stored_eq
      obtain ⟨before, hbefore, hk⟩ := h.get?_self (op.isReleased_guarded hm _)
      exact ⟨before, _, hbefore, by rw [hr.tenants_eq]; exact hk, (hr.body_eq hb).symm⟩
    | _ => exact absurd hb (by simp [PassResult.start, PassResult.aborted])
  obtain ⟨before, kept, hbefore, hk, rfl⟩ := hthere
  exact ⟨before, kept, hbefore, hk, rfl, h.status_eq hn hbefore hk⟩

end Passes

/-! ## Turns -/

/-- A turn whose pass has a body writes what the pass has to say into the status that it found, or
leaves the status alone. -/
theorem Operator.attend_writes (op : Operator) (now : Time.Instant) {n : String}
    {w : World MemoryCluster} (hn : w.cluster.KnowsAs n) {body : Json}
    (hb : (op.reconcile (.str n) w).1.body = some body) :
    let r := (op.reconcile (.str n) w).1
    let passed := (op.reconcile (.str n) w).2.cluster
    let after := ((op.attend now (.str n)).run w).2.cluster
    after.objects = passed.objects ∧ ∃ before later,
      w.cluster.tenants.get? (.text n) = some before ∧
      after.tenants.get? (.text n) = some later ∧
      ((later.body.status = before.body.status ∧
          ∀ patch, r.patch op.settings now = .ok (some patch) →
            ((MemoryCluster.patchTenantStatus (.str n) patch).run passed).1 ≠ .ok ()) ∨
        ∃ happened new,
          r.Writes op.settings now before.body.status later.body.status happened new) := by
  intro r passed after
  have hpass := reconcile_reconciles op (.str n) w
  obtain ⟨before, kept, hbefore, hk, rfl, hstatus⟩ := hpass.stored_of_body hn hb
  have hafter : after = ((op.publish now r).run (op.reconcile (.str n) w).2).2.cluster := by
    simp only [after, run_attend_str]
    rfl
  cases hp : r.patch op.settings now with
  | error fault =>
    have hsame : after = passed := by rw [hafter, run_publish_of_error hp]
    rw [hsame]
    exact ⟨rfl, before, kept, hbefore, hk, .inl ⟨hstatus, by simp⟩⟩
  | ok patch =>
    obtain ⟨journal, hrun⟩ := run_publish hp (op.reconcile (.str n) w).2
    cases patch with
    | none =>
      have hsame : after = passed := by rw [hafter, hrun]
      rw [hsame]
      exact ⟨rfl, before, kept, hbefore, hk, .inl ⟨hstatus, by simp⟩⟩
    | some patch =>
      have hnew : after = ((MemoryCluster.patchTenantStatus (.str n) patch).run passed).2 := by
        rw [hafter, hrun, hpass.name_eq]
      obtain ⟨hobjects, ⟨fault, hrefused, htenants⟩ | ⟨-, later, happened, new, hl, hwrites⟩⟩ :=
        MemoryCluster.patchTenantStatus_writes hk hb hp
      · refine ⟨by rw [hnew, hobjects], before, kept, hbefore, by rw [hnew, htenants, hk],
          .inl ⟨hstatus, fun other hother => ?_⟩⟩
        rw [← Option.some.inj (Except.ok.inj hother), hrefused]
        simp
      · rw [hstatus] at hwrites
        exact ⟨by rw [hnew, hobjects], before, later, hbefore, by rw [hnew, hl],
          .inr ⟨happened, new, hwrites⟩⟩

end MoodleTenancy
