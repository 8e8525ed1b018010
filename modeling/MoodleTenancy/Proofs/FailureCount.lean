import Mathlib.Algebra.Group.Nat.Defs
import Mathlib.Data.List.Induction
import MoodleTenancy.Proofs.Reports

/-!
# The number of failures in a row

The status of a tenant says how many passes have failed since the last one that did not, whatever
the passes came to and whenever they were, although some of them write nothing.

* `failuresInARow`: the number of failures at the end of a list of results.
* `Json.failureCount`: the number of failures that a body says.
* `StatusDraft.IsOpen`: conditions and a log that can be written on.
* `Counts`: a body whose status can be written on and says a number of failures.
* `Tells`: the fields that a pass writes on such a body.
* `PassResult.patch_of_fatal`, `PassResult.patch_of_ne_fatal`: what a pass writes.
* `Counts.afterReport`: a report on such a body.
* `reported`: a body after any number of reports.
* `retryCount_counts_failures`: what the status says after a report, and what the report writes.

A number of more than `digitLimit` digits has no text, so that a failure that would write one writes
nothing.
-/

namespace MoodleTenancy
set_option autoImplicit false

open Numeric

/-! ## Failures in a row -/

/-- The number of failures at the end of a list of results. Passes without a body do not count. -/
def failuresInARow (reports : List (Time.Instant × PassResult)) : Nat :=
  (((reports.map Prod.snd).filter (·.body.isSome)).reverse.takeWhile
    (·.outcome = .fatal)).length

theorem failuresInARow_append (reports : List (Time.Instant × PassResult)) (now : Time.Instant)
    (r : PassResult) :
    failuresInARow (reports ++ [(now, r)]) =
      if r.body.isSome then
        if r.outcome = .fatal then failuresInARow reports + 1 else 0
      else failuresInARow reports := by
  cases hb : r.body.isSome with
  | false => simp [failuresInARow, List.filter_append, hb]
  | true =>
    by_cases hf : r.outcome = .fatal
    · simp [failuresInARow, List.filter_append, hb, hf]
    · simp [failuresInARow, List.filter_append, hb, hf]

/-- A number is written out unless it is too long. -/
theorem writtenOut_int {n : Nat} (h : n < 10 ^ digitLimit) :
    (Json.int n).writtenOut = .ok (toString n) := by
  have hlength : (Nat.toDigits 10 (n : Int).natAbs).length ≤ digitLimit :=
    (Nat.length_toDigits_le_iff (by decide) (by decide)).2 h
  rw [Json.writtenOut, if_neg (Nat.not_lt.2 hlength)]
  rfl

theorem writtenOut_int_of_le {n : Nat} (h : 10 ^ digitLimit ≤ n) :
    (Json.int n).writtenOut = .error .unwritableInteger := by
  have hlength : ¬ (Nat.toDigits 10 (n : Int).natAbs).length ≤ digitLimit := by
    rw [Nat.length_toDigits_le_iff (by decide) (by decide)]
    exact Nat.not_lt.2 h
  rw [Json.writtenOut, if_pos (Nat.not_le.1 hlength)]

/-! ## Conditions and logs that can be written on -/

/-- The entry of an activity in a log. -/
def Activity.entryAt (a : Activity) (time : String) : Json :=
  .obj [("timestamp", .str time), ("event", .str a.event), ("message", .str a.message)]

/-- The conditions of a draft are objects, and its log is a list. -/
structure StatusDraft.IsOpen (d : StatusDraft) : Prop where
  conditions : ∃ items, d.conditions = .arr items ∧ ∀ j ∈ items, ∃ fields, j = .obj fields
  log : ∃ entries, d.log = .arr entries

section Drafts

variable {now : Time.Instant} {time : String} (ht : stamp now = .ok time)
include ht

theorem Condition.upsert_objects (c : Condition) {items : List Json}
    (h : ∀ j ∈ items, ∃ fields, j = .obj fields) :
    ∃ after, c.upsert now items = .ok after ∧ ∀ j ∈ after, ∃ fields, j = .obj fields := by
  induction items with
  | nil =>
    rw [upsert_nil, fresh, ht]
    exact ⟨_, rfl, by simp⟩
  | cons stored rest ih =>
    obtain ⟨⟨fields, rfl⟩, hrest⟩ := List.forall_mem_cons.1 h
    obtain ⟨after, hafter, hobjects⟩ := ih hrest
    rw [upsert_cons_obj]
    split
    · have honto : ∃ fields', c.onto now (.obj fields) = .ok (.obj fields') := by
        rw [onto, ht]
        split
        · exact ⟨_, rfl⟩
        · exact ⟨_, rfl⟩
      obtain ⟨fields', honto⟩ := honto
      rw [honto]
      exact ⟨_, rfl, List.forall_mem_cons.2 ⟨⟨fields', rfl⟩, hrest⟩⟩
    · rw [hafter]
      exact ⟨_, rfl, List.forall_mem_cons.2 ⟨⟨fields, rfl⟩, hobjects⟩⟩

/-- What happened stands at the end of the log. -/
theorem Activity.append_entry (a : Activity) (entries : List Json) :
    ∃ before, a.append now (.arr entries) = .ok (.arr (before ++ [a.entryAt time])) := by
  have hlimit : (entries ++ [Json.null]).length - limit ≤ entries.length := by
    simp [limit]
  refine ⟨entries.drop ((entries ++ [Json.null]).length - limit), ?_⟩
  rw [append_arr, entry, ht]
  simp only [bind, Except.bind, pure, Except.pure, Except.map, lastOf]
  rw [List.length_append, List.length_singleton] at hlimit ⊢
  rw [List.length_append, List.length_singleton, List.drop_append_of_le_length hlimit, entryAt]

theorem StatusDraft.say_condition (c : Condition) {d : StatusDraft} (hd : d.IsOpen) :
    ∃ after, d.say now (.condition c) = .ok after ∧ after.IsOpen ∧ after.log = d.log := by
  obtain ⟨conditions, log⟩ := d
  obtain ⟨⟨items, rfl, hobjects⟩, hlog⟩ := hd
  obtain ⟨after, hafter, hafters⟩ := c.upsert_objects ht hobjects
  refine ⟨⟨.arr after, log⟩, ?_, ⟨⟨after, rfl, hafters⟩, hlog⟩, rfl⟩
  rw [say, Json.itemsOf]
  simp [hafter, bind, Except.bind, pure, Except.pure]

theorem StatusDraft.say_activity (a : Activity) {d : StatusDraft} (hd : d.IsOpen) :
    ∃ after, d.say now (.activity a) = .ok after ∧ after.IsOpen ∧
      ∃ before, after.log = .arr (before ++ [a.entryAt time]) := by
  obtain ⟨conditions, log⟩ := d
  obtain ⟨hconditions, entries, rfl⟩ := hd
  obtain ⟨before, hbefore⟩ := a.append_entry ht entries
  refine ⟨⟨conditions, .arr (before ++ [a.entryAt time])⟩, ?_, ⟨hconditions, _, rfl⟩, before, rfl⟩
  simp [say, hbefore, bind, Except.bind, pure, Except.pure]

/-- Conditions and activities can always be said. -/
theorem StatusDraft.foldlM_say_open {events : List StatusEvent} {d : StatusDraft} (hd : d.IsOpen)
    (he : ∀ e ∈ events, (∃ c, e = .condition c) ∨ ∃ a, e = .activity a) :
    ∃ after, events.foldlM (StatusDraft.say now) d = .ok after ∧ after.IsOpen := by
  induction events generalizing d with
  | nil => exact ⟨d, rfl, hd⟩
  | cons e rest ih =>
    obtain ⟨hfirst, hrest⟩ := List.forall_mem_cons.1 he
    obtain ⟨next, hnext, hopen⟩ : ∃ next, d.say now e = .ok next ∧ next.IsOpen := by
      obtain ⟨c, rfl⟩ | ⟨a, rfl⟩ := hfirst
      · obtain ⟨next, hnext, hopen, -⟩ := d.say_condition ht c hd
        exact ⟨next, hnext, hopen⟩
      · obtain ⟨next, hnext, hopen, -⟩ := d.say_activity ht a hd
        exact ⟨next, hnext, hopen⟩
    rw [List.foldlM_cons, hnext]
    exact ih hopen hrest

end Drafts

/-! ## What is written -/

/-- The conditions and the log of a status, as far as they count as given. -/
def draftOf (status : Fields) : StatusDraft :=
  ⟨(Json.ofOption (Fields.get? "conditions" status)).orElse (.arr []),
    (Json.ofOption (Fields.get? "activityLog" status)).orElse (.arr [])⟩

/-- The number of failures that a status says, which is zero if it says none. -/
def countOf (status : Fields) : Json := (Fields.get? "retryCount" status).getD (.int 0)

/-- The number of failures that the status of a body says, which is zero if it says none. -/
def Json.failureCount (body : Json) : Json :=
  ((body.get? "status").bind (Json.get? "retryCount")).getD (.int 0)

/-- The body has metadata, and its status can be written on and says a number of failures. -/
structure Counts (body : Json) (status : Fields) (count : Nat) : Prop where
  metadata : ∃ md, body.get? "metadata" = some (.obj md)
  stored : (Json.ofOption (body.get? "status")).orElse (.obj []) = .obj status
  draft : (draftOf status).IsOpen
  count : countOf status = .int count

/-- A patch has a number of failures in it, and conditions and a log that can be written on. -/
structure Tells (fields : Fields) (count : Nat) : Prop where
  distinct : Fields.Distinct fields
  count : Fields.get? "retryCount" fields = some (.int count)
  draft : ∃ d : StatusDraft, d.IsOpen ∧ Fields.get? "conditions" fields = some d.conditions ∧
    Fields.get? "activityLog" fields = some d.log

theorem Tells.lastUpdated {fields : Fields} {count : Nat} (h : Tells fields count) (time : Json) :
    Tells (Fields.set "lastUpdated" time fields) count where
  distinct := h.distinct.set _ _
  count := by rw [Fields.get?_set_ne (by decide), h.count]
  draft := by
    rw [Fields.get?_set_ne (by decide), Fields.get?_set_ne (by decide)]
    exact h.draft

/-- A patch that is laid over a status leaves one that can be written on again. -/
theorem Tells.counts {fields patch : Fields} {count : Nat} (h : Tells patch count) {body : Json}
    (hmd : ∃ md, body.get? "metadata" = some (.obj md)) :
    Counts (body.set "status" (.obj (Fields.overlay fields patch))) (Fields.overlay fields patch)
      count := by
  obtain ⟨md, hmd⟩ := hmd
  obtain ⟨⟨conditions, log⟩, ⟨⟨items, rfl, hobjects⟩, entries, rfl⟩, hconditions, hlog⟩ := h.draft
  have hread : ∀ {key : Key} {v : Json}, Fields.get? key patch = some v →
      Fields.get? key (Fields.overlay fields patch) = some v := by
    intro key v hv
    rw [Fields.get?_overlay fields h.distinct, hv, Option.some_or]
  have horElse : ∀ items : List Json, (Json.arr items).orElse (.arr []) = .arr items := by
    intro items
    cases items <;> rfl
  refine ⟨⟨md, by rw [Json.get?_set_ne (by decide), hmd]⟩, ?_, ?_, ?_⟩
  · cases body with
    | obj all =>
      rw [Json.set_obj, Json.get?_obj, Fields.get?_set_self]
      exact Json.orElse_obj _
    | _ => exact absurd hmd (by simp [Json.get?])
  · rw [draftOf, hread hconditions, hread hlog]
    exact ⟨⟨items, horElse items, hobjects⟩, entries, horElse entries⟩
  · rw [countOf, hread h.count, Option.getD_some]

namespace PassResult

variable {s : Settings} {now : Time.Instant} {time : String} {r : PassResult}

/-- The fields that a pass writes, of what it reports and the draft that this is put into. -/
def fieldsOf (s : Settings) (r : PassResult) (generation : Json) (report : StatusReport)
    (draft : StatusDraft) : Fields :=
  Json.presentFields [("phase", some (.str r.outcome.phase)),
    ("namespace", some (.str (Names.space s r.label))),
    ("observedGeneration", some generation),
    ("retryCount", some report.retryCount),
    ("url", r.url.map .str),
    ("message", some (.str report.message)),
    ("conditions", some draft.conditions),
    ("activityLog", some draft.log)]

theorem distinct_fieldsOf (generation : Json) (report : StatusReport) (draft : StatusDraft) :
    Fields.Distinct (r.fieldsOf s generation report draft) := by
  rw [fieldsOf]
  cases r.url with
  | none =>
    show ([.text "phase", .text "namespace", .text "observedGeneration", .text "retryCount",
      .text "message", .text "conditions", .text "activityLog"] : List Key.Identity).Nodup
    decide
  | some url =>
    show ([.text "phase", .text "namespace", .text "observedGeneration", .text "retryCount",
      .text "url", .text "message", .text "conditions", .text "activityLog"] :
        List Key.Identity).Nodup
    decide

theorem get?_fieldsOf (generation : Json) (report : StatusReport) (draft : StatusDraft) :
    let fields := r.fieldsOf s generation report draft
    Fields.get? "phase" fields = some (.str r.outcome.phase) ∧
      Fields.get? "observedGeneration" fields = some generation ∧
      Fields.get? "retryCount" fields = some report.retryCount ∧
      Fields.get? "conditions" fields = some draft.conditions ∧
      Fields.get? "activityLog" fields = some draft.log := by
  intro fields
  simp only [fields, fieldsOf]
  cases r.url <;> exact ⟨rfl, rfl, rfl, rfl, rfl⟩

theorem tells_fieldsOf {generation : Json} {report : StatusReport} {draft : StatusDraft}
    {count : Nat} (hr : report.retryCount = .int count) (hd : draft.IsOpen) :
    Tells (r.fieldsOf s generation report draft) count := by
  obtain ⟨-, -, hcount, hconditions, hlog⟩ := r.get?_fieldsOf (s := s) generation report draft
  exact ⟨distinct_fieldsOf generation report draft, by rw [hcount, hr], draft, hd, hconditions, hlog⟩

/-- The fields are made of the report, once it is in the draft. -/
theorem statusFields_of_report {body : Json} {md status : Fields}
    (hmd : body.get? "metadata" = some (.obj md)) {report : StatusReport}
    (hr : r.report (Names.space s r.label) (countOf status)
      (.ofOption (Fields.get? "phase" status)) = .ok report) :
    r.statusFields s now body (.obj status) =
      (report.events.foldlM (StatusDraft.say now) (draftOf status)).map fun draft =>
        r.fieldsOf s (.ofOption (Fields.get? "generation" md)) report draft := by
  have hentry : body.entry "metadata" = .ok (.obj md) := Json.entry_eq_ok.2 hmd
  rw [countOf] at hr
  simp only [statusFields, before_obj, hentry, Json.field_obj, Json.get?_obj, hr, bind,
    Except.bind, draftOf]
  cases report.events.foldlM (StatusDraft.say now) _ <;> rfl

/-- What a pass that does not fail has to say can be said. -/
theorem report_of_ne_fatal (hf : r.outcome ≠ .fatal) (ns : String) (count phase : Json) :
    ∃ report, r.report ns count phase = .ok report ∧ report.retryCount = .int 0 ∧
      ∀ e ∈ report.events, (∃ c, e = .condition c) ∨ ∃ a, e = .activity a := by
  have hactivity : ∀ (p : Prop) [Decidable p] (a : Activity),
      ∀ e ∈ (if p then [] else [StatusEvent.activity a]), ∃ a, e = .activity a := by
    intro p _ a e he
    split at he
    · exact absurd he (by simp)
    · exact ⟨a, List.mem_singleton.1 he⟩
  have hnamespace : ∀ e ∈ r.namespaceEvents ns, (∃ c, e = .condition c) ∨ ∃ a, e = .activity a := by
    rw [namespaceEvents]
    split <;> simp
  cases ho : r.outcome with
  | fatal => exact absurd ho hf
  | requeue =>
    rw [report, ho]
    refine ⟨_, rfl, rfl, fun e he => ?_⟩
    obtain he | he := List.mem_append.1 he
    · exact hnamespace e he
    · exact .inl ⟨_, List.mem_singleton.1 he⟩
  | converged =>
    rw [report, ho]
    refine ⟨_, rfl, rfl, fun e he => ?_⟩
    obtain he | he := List.mem_append.1 he
    · obtain he | he := List.mem_append.1 he
      · obtain he | he := List.mem_append.1 he
        · exact hnamespace e he
        · exact .inl ⟨_, List.mem_singleton.1 he⟩
      · exact .inr (hactivity _ _ e he)
    · exact .inr (hactivity _ _ e he)

/-- The activity of a failed pass. -/
def failure (r : PassResult) (attempt : Nat) : Activity :=
  ⟨"RECONCILE_FAILED", "Attempt " ++ toString attempt ++ ": " ++ Text.firstChars 150 r.faultText⟩

section Fields

variable {body : Json} {md status : Fields} {count : Nat} (ht : stamp now = .ok time)
  (hmd : body.get? "metadata" = some (.obj md)) (hopen : (draftOf status).IsOpen)
include ht hmd hopen

theorem statusFields_of_ne_fatal (hf : r.outcome ≠ .fatal) :
    ∃ written, r.statusFields s now body (.obj status) = .ok written ∧ Tells written 0 := by
  obtain ⟨report, hr, hcount, hevents⟩ := r.report_of_ne_fatal hf (Names.space s r.label)
    (countOf status) (.ofOption (Fields.get? "phase" status))
  obtain ⟨draft, hd, hafter⟩ := StatusDraft.foldlM_say_open ht hopen hevents
  rw [statusFields_of_report hmd hr, hd]
  exact ⟨_, rfl, tells_fieldsOf hcount hafter⟩

theorem statusFields_of_fatal (hf : r.outcome = .fatal) (hcount : countOf status = .int count) :
    (count + 1 < 10 ^ digitLimit → ∃ written before,
      r.statusFields s now body (.obj status) = .ok written ∧ Tells written (count + 1) ∧
      Fields.get? "activityLog" written =
        some (.arr (before ++ [(r.failure (count + 1)).entryAt time]))) ∧
    (¬ count + 1 < 10 ^ digitLimit →
      ∃ fault, r.statusFields s now body (.obj status) = .error fault) := by
  have hr : ∀ ns phase, r.report ns (countOf status) phase =
      .ok ⟨"Reconcile failed: " ++ Text.firstChars 200 r.faultText, .int ((count + 1 : Nat) : Int),
        [.condition (.resourcesFailed (Text.firstChars 200 r.faultText)),
          .failure (.int ((count + 1 : Nat) : Int)) (Text.firstChars 150 r.faultText)]⟩ := by
    intro ns phase
    rw [report, hf, hcount]
    rfl
  obtain ⟨said, hsaid, hsaidOpen, -⟩ := (draftOf status).say_condition ht
    (.resourcesFailed (Text.firstChars 200 r.faultText)) hopen
  rw [statusFields_of_report hmd (hr _ _)]
  constructor
  · intro hn
    have hfailed : Activity.passFailed (.int ((count + 1 : Nat) : Int))
        (Text.firstChars 150 r.faultText) = .ok (r.failure (count + 1)) := by
      rw [Activity.passFailed, writtenOut_int hn]
      rfl
    obtain ⟨draft, hdraft, hdraftOpen, before, hlog⟩ :=
      said.say_activity ht (r.failure (count + 1)) hsaidOpen
    have hsame : said.say now (.failure (.int ((count + 1 : Nat) : Int))
        (Text.firstChars 150 r.faultText)) = .ok draft := by
      rw [StatusDraft.say, hfailed]
      exact hdraft
    have hfold : [StatusEvent.condition (.resourcesFailed (Text.firstChars 200 r.faultText)),
        .failure (.int ((count + 1 : Nat) : Int)) (Text.firstChars 150 r.faultText)].foldlM
          (StatusDraft.say now) (draftOf status) = .ok draft := by
      rw [List.foldlM_cons, hsaid]
      exact (bind_pure _).trans hsame
    rw [hfold]
    refine ⟨_, before, rfl, tells_fieldsOf rfl hdraftOpen, ?_⟩
    rw [(get?_fieldsOf _ _ draft).2.2.2.2, hlog]
  · intro hn
    have hfailed : Activity.passFailed (.int ((count + 1 : Nat) : Int))
        (Text.firstChars 150 r.faultText) = .error .unwritableInteger := by
      rw [Activity.passFailed, writtenOut_int_of_le (Nat.not_lt.1 hn)]
      rfl
    refine ⟨.unwritableInteger, ?_⟩
    rw [List.foldlM_cons, hsaid]
    simp only [bind, Except.bind, List.foldlM_cons, StatusDraft.say, hfailed, Except.map]

end Fields

/-! ## Patches -/

/-- The result with another body, if it has one at all. -/
def on (r : PassResult) (body : Json) : PassResult := { r with body := r.body.map fun _ => body }

theorem body_on_of_isSome (hb : r.body.isSome = true) (body : Json) :
    (r.on body).body = some body := by
  obtain ⟨seen, hseen⟩ := Option.isSome_iff_exists.1 hb
  rw [on, hseen]
  rfl

theorem body_on_of_none (hb : r.body = none) (body : Json) : (r.on body).body = none := by
  rw [on, hb]
  rfl

theorem patch_of_statusFields {body : Json} {status written : Fields} {count : Nat}
    (h : Counts body status count) (hb : r.body.isSome = true) (ht : stamp now = .ok time)
    (hw : (r.on body).statusFields s now body (.obj status) = .ok written) :
    (r.on body).patch s now = .ok (if isUnchanged (.obj status) written then none
      else some (.obj (Fields.set "lastUpdated" (.str time) written))) := by
  obtain ⟨md, hmd⟩ := h.metadata
  have hfield : body.field "status" = .ok (Json.ofOption (body.get? "status")) := by
    cases body with
    | obj all => rfl
    | _ => exact absurd hmd (by simp [Json.get?])
  rw [patch, body_on_of_isSome hb]
  simp only [hfield, h.stored, hw, ht, bind, Except.bind, pure, Except.pure]
  split <;> rfl

theorem same_of_unchanged {status written : Fields} {key : Key} {v : Json}
    (hu : isUnchanged (.obj status) written = true) (hw : Fields.get? key written = some v) :
    (Json.ofOption (Fields.get? key status)).same v = true := by
  obtain ⟨k, hk, hmem⟩ := Fields.mem_of_get? hw
  have hsame := List.all_eq_true.1 hu _ hmem
  rwa [Json.get?_obj, Fields.get?_eq_of_identity hk] at hsame

/-- Nothing is left unwritten if the number is another one. -/
theorem count_of_unchanged {status written : Fields} {count next : Nat}
    (hc : countOf status = .int count) (hw : Fields.get? "retryCount" written = some (.int next))
    (hu : isUnchanged (.obj status) written = true) :
    count = next ∧ Fields.get? "retryCount" status = some (.int count) := by
  have hsame := same_of_unchanged hu hw
  rw [countOf] at hc
  cases hv : Fields.get? "retryCount" status with
  | none => simp [hv, Json.ofOption, Json.same, Json.number?] at hsame
  | some v =>
    obtain rfl : v = .int count := by simpa [hv] using hc
    have heq : (count : Int) = next := by
      simpa [hv, Json.ofOption, Json.same, Json.number?, Magnitude.same] using hsame
    exact ⟨Int.ofNat.inj heq, rfl⟩

/-- A failed pass writes a number that is greater by one, so it has something to write. -/
theorem patch_of_fatal {body : Json} {status : Fields} {count : Nat}
    (h : Counts body status count) (hb : r.body.isSome = true) (ht : stamp now = .ok time)
    (hf : r.outcome = .fatal) (hn : count + 1 < 10 ^ digitLimit) :
    ∃ fields before, (r.on body).patch s now = .ok (some (.obj fields)) ∧
      Tells fields (count + 1) ∧ Fields.get? "activityLog" fields =
        some (.arr (before ++ [(r.failure (count + 1)).entryAt time])) := by
  obtain ⟨md, hmd⟩ := h.metadata
  obtain ⟨written, before, hw, htells, hlog⟩ :=
    (statusFields_of_fatal (s := s) (r := r.on body) ht hmd h.draft hf h.count).1 hn
  have hchanged : isUnchanged (.obj status) written = false := by
    rw [← Bool.not_eq_true]
    intro hu
    have := (count_of_unchanged h.count htells.count hu).1
    omega
  refine ⟨_, before, ?_, htells.lastUpdated (.str time), ?_⟩
  · rw [patch_of_statusFields h hb ht hw, hchanged]
    rfl
  · rw [Fields.get?_set_ne (by decide), hlog]
    rfl

/-- A number that cannot be written out is not written. -/
theorem patch_of_fatal_of_le {body : Json} {status : Fields} {count : Nat}
    (h : Counts body status count) (ht : stamp now = .ok time) (hf : r.outcome = .fatal)
    (hn : ¬ count + 1 < 10 ^ digitLimit) (patch : Json) :
    (r.on body).patch s now ≠ .ok (some patch) := by
  obtain ⟨md, hmd⟩ := h.metadata
  obtain ⟨fault, hw⟩ :=
    (statusFields_of_fatal (s := s) (r := r.on body) ht hmd h.draft hf h.count).2 hn
  cases hb : r.body with
  | none => simp [body_on_of_none hb]
  | some seen =>
    have hfield : body.field "status" = .ok (Json.ofOption (body.get? "status")) := by
      cases body with
      | obj all => rfl
      | _ => exact absurd hmd (by simp [Json.get?])
    rw [PassResult.patch, body_on_of_isSome (by rw [hb]; rfl)]
    simp [hfield, h.stored, hw, bind, Except.bind]

/-- A pass that does not fail writes nothing only if the number is zero already. -/
theorem patch_of_ne_fatal {body : Json} {status : Fields} {count : Nat}
    (h : Counts body status count) (hb : r.body.isSome = true) (ht : stamp now = .ok time)
    (hf : r.outcome ≠ .fatal) :
    (∃ fields, (r.on body).patch s now = .ok (some (.obj fields)) ∧ Tells fields 0) ∨
      ((r.on body).patch s now = .ok none ∧ count = 0) := by
  obtain ⟨md, hmd⟩ := h.metadata
  obtain ⟨written, hw, htells⟩ :=
    statusFields_of_ne_fatal (s := s) (r := r.on body) ht hmd h.draft hf
  rw [patch_of_statusFields h hb ht hw]
  cases hu : isUnchanged (.obj status) written with
  | false => exact .inl ⟨_, rfl, htells.lastUpdated _⟩
  | true => exact .inr ⟨rfl, (count_of_unchanged h.count htells.count hu).1⟩

end PassResult

/-! ## Runs of reports -/

/-- A body after reports on it, whatever bodies the passes saw. -/
def reported (s : Settings) (body : Json) (reports : List (Time.Instant × PassResult)) : Json :=
  reports.foldl (fun body report => (afterReport s report.1 body (report.2.on body)).1) body

theorem reported_append (s : Settings) (body : Json) (reports : List (Time.Instant × PassResult))
    (now : Time.Instant) (r : PassResult) :
    reported s body (reports ++ [(now, r)]) =
      (afterReport s now (reported s body reports) (r.on (reported s body reports))).1 := by
  rw [reported, List.foldl_append]
  rfl

namespace Counts

variable {s : Settings} {now : Time.Instant} {time : String} {r : PassResult} {body : Json}
  {status : Fields} {count : Nat}

theorem merged (h : Counts body status count) {patch : Fields} {next : Nat}
    (hp : (r.on body).patch s now = .ok (some (.obj patch))) (ht : Tells patch next) :
    ∃ status', Counts (afterReport s now body (r.on body)).1 status' next := by
  refine ⟨Fields.overlay status patch, ?_⟩
  rw [afterReport, hp]
  simp only [mergeStatus, h.stored]
  exact ht.counts h.metadata

theorem unreported (h : Counts body status count)
    (hp : ∀ patch, (r.on body).patch s now ≠ .ok (some patch)) :
    ∃ status', Counts (afterReport s now body (r.on body)).1 status' count := by
  refine ⟨status, ?_⟩
  rw [afterReport]
  split
  · rename_i patch hpatch
    exact absurd hpatch (hp patch)
  · exact h

/-- One report. A number that cannot be written out stays behind. -/
theorem afterReport (h : Counts body status count) (ht : stamp now = .ok time) (r : PassResult) :
    ∃ status', Counts (afterReport s now body (r.on body)).1 status'
      (if r.body.isSome then
        if r.outcome = .fatal then
          if count + 1 < 10 ^ digitLimit then count + 1 else count
        else 0
      else count) := by
  cases hb : r.body.isSome with
  | false =>
    have hnone : r.body = none := Option.not_isSome_iff_eq_none.1 (by simp [hb])
    exact h.unreported fun patch => by simp [PassResult.body_on_of_none hnone]
  | true =>
    by_cases hf : r.outcome = .fatal
    · by_cases hn : count + 1 < 10 ^ digitLimit
      · obtain ⟨fields, -, hp, htells, -⟩ := PassResult.patch_of_fatal (s := s) h hb ht hf hn
        simp only [hf, hn, if_true]
        exact h.merged hp htells
      · simp only [hf, hn, if_true, if_false]
        exact h.unreported (PassResult.patch_of_fatal_of_le h ht hf hn)
    · simp only [hf, if_true, if_false]
      obtain ⟨fields, hp, htells⟩ | ⟨hp, rfl⟩ := PassResult.patch_of_ne_fatal (s := s) h hb ht hf
      · exact h.merged hp htells
      · exact h.unreported fun patch => by simp [hp]

/-- Any number of reports. -/
theorem reported (h : Counts body status 0) {reports : List (Time.Instant × PassResult)}
    (ht : ∀ report ∈ reports, ∃ time, stamp report.1 = .ok time) :
    ∃ status' count, Counts (reported s body reports) status' count ∧
      (failuresInARow reports < 10 ^ digitLimit → count = failuresInARow reports) := by
  induction reports using List.reverseRecOn with
  | nil => exact ⟨status, 0, h, fun _ => rfl⟩
  | append_singleton before last ih =>
    obtain ⟨now, r⟩ := last
    obtain ⟨time, hnow⟩ := ht (now, r) (by simp)
    obtain ⟨status', count, hcounts, hcount⟩ := ih fun report hr => ht report (by simp [hr])
    obtain ⟨status'', hafter⟩ := hcounts.afterReport (s := s) hnow r
    refine ⟨status'', _, by rw [reported_append]; exact hafter, ?_⟩
    rw [failuresInARow_append]
    cases r.body.isSome with
    | false => exact hcount
    | true =>
      by_cases hf : r.outcome = .fatal
      · simp only [hf, if_true]
        intro hn
        have hbefore : count = failuresInARow before := hcount (by omega)
        rw [hbefore, if_pos hn]
      · simp [hf]

theorem failureCount (h : Counts body status count) : body.failureCount = .int count := by
  rw [← h.count, countOf, Json.failureCount]
  have hstored := h.stored
  cases hv : body.get? "status" with
  | none =>
    rw [hv] at hstored
    obtain rfl : [] = status := Json.obj.inj hstored
    rfl
  | some v =>
    rw [hv, Json.ofOption, Option.getD_some, Json.orElse] at hstored
    split at hstored
    · rw [hstored]
      rfl
    · rename_i hempty
      obtain rfl : [] = status := Json.obj.inj hstored
      cases v with
      | obj fields =>
        obtain rfl : fields = [] := by simpa [Json.isTruthy] using hempty
        rfl
      | _ => rfl

/-- A body without a status. -/
theorem start {md : Fields} (hmd : body.get? "metadata" = some (.obj md))
    (hs : body.get? "status" = none) : Counts body [] 0 where
  metadata := ⟨md, hmd⟩
  stored := by rw [hs]; rfl
  draft := ⟨⟨[], rfl, by simp⟩, [], rfl⟩
  count := rfl

end Counts

/-- The status says how many passes have failed in a row. A failure is always written, with its number
in the log; a pass that did not fail is left out only where the number is none already. -/
theorem retryCount_counts_failures (s : Settings) {body : Json} {md : Fields}
    (hmd : body.get? "metadata" = some (.obj md)) (hs : body.get? "status" = none)
    {reports : List (Time.Instant × PassResult)}
    (ht : ∀ report ∈ reports, ∃ time, stamp report.1 = .ok time)
    {now : Time.Instant} {time : String} (hnow : stamp now = .ok time) (r : PassResult) :
    let current := reported s body reports
    let after := afterReport s now current (r.on current)
    let n := failuresInARow (reports ++ [(now, r)])
    n < 10 ^ digitLimit →
      after.1.failureCount = .int n ∧
      (r.body.isSome → r.outcome = .fatal → ∃ fields before, after.2 = .ok (some (.obj fields)) ∧
        Fields.get? "retryCount" fields = some (.int n) ∧
        Fields.get? "activityLog" fields = some (.arr (before ++ [(r.failure n).entryAt time]))) ∧
      (r.body.isSome → r.outcome ≠ .fatal →
        (∃ fields, after.2 = .ok (some (.obj fields)) ∧
          Fields.get? "retryCount" fields = some (.int 0)) ∨
        (after.2 = .ok none ∧ current.failureCount = .int 0)) ∧
      (r.body = none → after = (current, .ok none)) := by
  intro current after n hn
  have hall : ∀ report ∈ reports ++ [(now, r)], ∃ time, stamp report.1 = .ok time := by
    intro report hreport
    obtain h | h := List.mem_append.1 hreport
    · exact ht report h
    · obtain rfl := List.mem_singleton.1 h
      exact ⟨time, hnow⟩
  obtain ⟨status, count, hcounts, hcount⟩ := (Counts.start hmd hs).reported (s := s) ht
  obtain ⟨status', count', hcounts', hcount'⟩ := (Counts.start hmd hs).reported (s := s) hall
  rw [reported_append] at hcounts'
  refine ⟨?_, ?_, ?_, ?_⟩
  · obtain rfl : count' = n := hcount' hn
    exact hcounts'.failureCount
  · intro hb hf
    have hnext : n = count + 1 := by
      have hsucc : n = failuresInARow reports + 1 := by
        simp only [n, failuresInARow_append, hb, hf, if_true]
      rw [hcount (by omega), hsucc]
    obtain ⟨fields, before, hpatch, htells, hlog⟩ :=
      PassResult.patch_of_fatal (s := s) hcounts hb hnow hf (hnext ▸ hn)
    rw [hnext]
    refine ⟨fields, before, ?_, htells.count, hlog⟩
    simp only [after, current, afterReport, hpatch]
  · intro hb hf
    obtain ⟨fields, hpatch, htells⟩ | ⟨hpatch, rfl⟩ :=
      PassResult.patch_of_ne_fatal (s := s) hcounts hb hnow hf
    · exact .inl ⟨fields, by simp only [after, current, afterReport, hpatch], htells.count⟩
    · exact .inr ⟨by simp only [after, current, afterReport, hpatch], hcounts.failureCount⟩
  · intro hb
    have hnone : (r.on current).body = none := by rw [PassResult.on, hb]; rfl
    simp only [after, afterReport, PassResult.patch_of_body_eq_none hnone]

/-- Two failures after a pass that made all, with a pass without a tenant between them. -/
theorem retryCount_counts_failures_plain :
    let body : Json := .obj [("metadata", .obj [("name", .str "a")])]
    let failed : PassResult :=
      { outcome := .fatal, name := .str "a", body := some body,
        fault := some (.api (some 500) none) }
    let done : PassResult := { outcome := .converged, name := .str "a", body := some body }
    let gone : PassResult := { outcome := .converged, name := .str "a" }
    let reports : List (Time.Instant × PassResult) :=
      [(0, failed), (60, done), (90, failed), (95, gone)]
    failuresInARow (reports ++ [(120, failed)]) = 2 ∧
      (reported {} body (reports ++ [(120, failed)])).failureCount = .int 2 := by
  intro body failed done gone reports
  have htwo : failuresInARow (reports ++ [(120, failed)]) = 2 := by decide
  have htimes : ∀ report ∈ reports, ∃ time, stamp report.1 = .ok time := by
    simp only [reports, List.forall_mem_cons]
    exact ⟨⟨_, rfl⟩, ⟨_, rfl⟩, ⟨_, rfl⟩, ⟨_, rfl⟩, by simp⟩
  have hmd : body.get? "metadata" = some (.obj [("name", .str "a")]) := rfl
  have hnow : stamp 120 = .ok "1970-01-01T00:02:00Z" := rfl
  have hlimit : 2 < 10 ^ digitLimit := calc
    2 < 10 ^ 1 := by decide
    _ ≤ 10 ^ digitLimit := Nat.pow_le_pow_right (by decide) (by decide)
  obtain ⟨hcount, -⟩ :=
    retryCount_counts_failures {} hmd rfl htimes hnow failed (by rw [htwo]; exact hlimit)
  refine ⟨htwo, ?_⟩
  rw [reported_append, hcount, htwo]
  rfl

end MoodleTenancy
