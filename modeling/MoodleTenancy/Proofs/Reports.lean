import MoodleTenancy.Proofs.Sameness
import MoodleTenancy.Proofs.TenantBody
import MoodleTenancy.Status.Report

/-!
# Reports of passes that converge

Whatever a status says, a pass that converges leaves it as the next one would: the conditions are
shown by then, and there is nothing new for the log.

* `Condition.Shown`: a list of conditions shows one as it is to be.
* `Condition.upsert_of_shown`, `Condition.shown_of_upsert`: a condition that is shown is left alone,
  at any time, and one that is brought up to date is shown.
* `PassResult.ready`: the result of a pass that converges.
* `SaysReady`: a status that says all that such a pass has to say if it made nothing.
* `PassResult.patch_eq_none_of_saysReady`: there is nothing to write then.
* `PassResult.saysReady_of_patch_eq_none`, `PassResult.saysReady_of_patch`: a status that was left
  alone says all of it, and so does one that was written.
-/

namespace MoodleTenancy
set_option autoImplicit false

theorem Except.bind_eq_ok_iff {ε α β : Type} {x : Except ε α} {f : α → Except ε β} {b : β} :
    x >>= f = .ok b ↔ ∃ a, x = .ok a ∧ f a = .ok b := by
  cases x with
  | error e => simp [bind, Except.bind]
  | ok a => simp [bind, Except.bind]

theorem Except.map_eq_ok_iff {ε α β : Type} {x : Except ε α} {f : α → β} {b : β} :
    x.map f = .ok b ↔ ∃ a, x = .ok a ∧ f a = b := by
  cases x with
  | error e => simp [Except.map]
  | ok a => simp [Except.map]

/-! ## Conditions that are shown -/

namespace Condition

/-- The first of the conditions with the type of `c` says what `c` says. -/
inductive Shown (c : Condition) : List Json → Prop where
  | here {fields : Fields} {rest : List Json}
    (htype : Fields.get? "type" fields = some (.str c.type))
    (hstatus : Fields.get? "status" fields = some (.str c.status))
    (hreason : Fields.get? "reason" fields = some (.str c.reason))
    (hmessage : Fields.get? "message" fields = some (.str c.message)) :
    Shown c (.obj fields :: rest)
  | behind {fields : Fields} {rest : List Json}
    (htype : (Json.ofOption (Fields.get? "type" fields)).isText c.type = false)
    (h : Shown c rest) : Shown c (.obj fields :: rest)

variable {c : Condition} {now : Time.Instant}

theorem upsert_of_shown {items : List Json} (h : c.Shown items) (now : Time.Instant) :
    c.upsert now items = .ok items := by
  induction h with
  | @here fields rest htype hstatus hreason hmessage =>
    have hturns : c.turns (.obj fields) = false := by
      simp [turns, hstatus, Json.ofOption, Json.isText]
    rw [upsert_cons_obj, htype, onto_of_not_turns hturns]
    simp [Json.ofOption, Json.isText, restated, Fields.set_of_get? hstatus,
      Fields.set_of_get? hreason, Fields.set_of_get? hmessage, Except.map]
  | behind htype h ih =>
    rw [upsert_cons_obj, htype, if_neg Bool.false_ne_true, ih]
    rfl

/-- A stored condition brought up to date says what `c` says; its type stays. -/
structure Restates (c : Condition) (fields after : Fields) : Prop where
  type : Fields.get? "type" after = Fields.get? "type" fields
  status : Fields.get? "status" after = some (.str c.status)
  reason : Fields.get? "reason" after = some (.str c.reason)
  message : Fields.get? "message" after = some (.str c.message)
  proper : (Json.obj fields).isProper = true → (Json.obj after).isProper = true

theorem restates_restated (c : Condition) (fields : Fields) :
    ∃ after, c.restated (.obj fields) = .obj after ∧ c.Restates fields after := by
  refine ⟨_, rfl, ?_, ?_, ?_, ?_, ?_⟩
  · rw [Fields.get?_set_ne (by decide), Fields.get?_set_ne (by decide),
      Fields.get?_set_ne (by decide)]
  · rw [Fields.get?_set_ne (by decide), Fields.get?_set_ne (by decide), Fields.get?_set_self]
  · rw [Fields.get?_set_ne (by decide), Fields.get?_set_self]
  · rw [Fields.get?_set_self]
  · intro h
    exact Json.isProper_set (Json.isProper_set (Json.isProper_set h rfl _) rfl _) rfl _

theorem restates_onto {fields : Fields} {j : Json} (h : c.onto now (.obj fields) = .ok j) :
    ∃ after, j = .obj after ∧ c.Restates fields after := by
  rw [onto] at h
  split at h
  · obtain ⟨time, -, h⟩ := Except.bind_eq_ok_iff.1 h
    obtain ⟨after, hafter, htype, hstatus, hreason, hmessage, hproper⟩ :=
      c.restates_restated (Fields.set "lastTransitionTime" (.str time) fields)
    refine ⟨after, ?_, ?_, hstatus, hreason, hmessage, ?_⟩
    · rw [← hafter]
      exact (Except.ok.inj h).symm
    · rw [htype, Fields.get?_set_ne (by decide)]
    · intro hfields
      exact hproper (Json.isProper_set hfields rfl _)
  · obtain ⟨after, hafter, hrestates⟩ := c.restates_restated fields
    exact ⟨after, by rw [← hafter]; exact (Except.ok.inj h).symm, hrestates⟩

theorem upsert_cons_eq_ok {stored : Json} {rest items : List Json}
    (h : c.upsert now (stored :: rest) = .ok items) :
    ∃ fields, stored = .obj fields ∧
      ((Fields.get? "type" fields = some (.str c.type) ∧
          ∃ after, c.Restates fields after ∧ items = .obj after :: rest) ∨
        ((Json.ofOption (Fields.get? "type" fields)).isText c.type = false ∧
          ∃ later, c.upsert now rest = .ok later ∧ items = stored :: later)) := by
  rw [upsert] at h
  obtain ⟨type, htype, h⟩ := Except.bind_eq_ok_iff.1 h
  cases stored with
  | obj fields =>
    obtain rfl := Except.ok.inj htype
    refine ⟨fields, rfl, ?_⟩
    split at h
    · rename_i hof
      obtain ⟨j, hj, h⟩ := Except.bind_eq_ok_iff.1 h
      obtain ⟨after, rfl, hrestates⟩ := restates_onto hj
      refine .inl ⟨?_, after, hrestates, (Except.ok.inj h).symm⟩
      cases hg : Fields.get? "type" fields with
      | none => simp [hg, Json.ofOption, Json.isText] at hof
      | some v =>
        cases v with
        | str s => simpa [hg, Json.ofOption, Json.isText] using hof
        | _ => simp [hg, Json.ofOption, Json.isText] at hof
    · rename_i hof
      obtain ⟨later, hlater, h⟩ := Except.bind_eq_ok_iff.1 h
      exact .inr ⟨by simpa using hof, later, hlater, (Except.ok.inj h).symm⟩
  | _ => exact absurd htype (by simp [Json.field])

theorem fresh_eq_ok {j : Json} (h : c.fresh now = .ok j) : ∃ time, j =
    .obj [("type", .str c.type), ("status", .str c.status), ("reason", .str c.reason),
      ("message", .str c.message), ("lastTransitionTime", .str time)] := by
  obtain ⟨time, -, h⟩ := Except.bind_eq_ok_iff.1 h
  exact ⟨time, (Except.ok.inj h).symm⟩

theorem shown_of_upsert {items after : List Json} (h : c.upsert now items = .ok after) :
    c.Shown after := by
  induction items generalizing after with
  | nil =>
    obtain ⟨j, hj, rfl⟩ := Except.map_eq_ok_iff.1 h
    obtain ⟨time, rfl⟩ := fresh_eq_ok hj
    exact .here rfl rfl rfl rfl
  | cons stored rest ih =>
    obtain ⟨fields, rfl, ⟨htype, updated, hr, rfl⟩ | ⟨htype, later, hlater, rfl⟩⟩ :=
      upsert_cons_eq_ok h
    · exact .here (hr.type.trans htype) hr.status hr.reason hr.message
    · exact .behind htype (ih hlater)

/-- A condition is shown still after one of another type is brought up to date. -/
theorem Shown.upsert {other : Condition} {items after : List Json} (h : c.Shown items)
    (hne : other.type ≠ c.type) (hu : other.upsert now items = .ok after) : c.Shown after := by
  induction h generalizing after with
  | here htype hstatus hreason hmessage =>
    obtain ⟨_, heq, ⟨htype', -⟩ | ⟨-, later, -, rfl⟩⟩ := upsert_cons_eq_ok hu
    · obtain rfl := Json.obj.inj heq
      rw [htype, Option.some.injEq, Json.str.injEq] at htype'
      exact absurd htype'.symm hne
    · exact .here htype hstatus hreason hmessage
  | behind htype h ih =>
    obtain ⟨_, heq, ⟨-, updated, hr, rfl⟩ | ⟨-, later, hlater, rfl⟩⟩ := upsert_cons_eq_ok hu
    · obtain rfl := Json.obj.inj heq
      exact .behind (by rw [hr.type, htype]) h
    · exact .behind htype (ih hlater)

theorem proper_upsert {items after : List Json} (h : Json.properItems items = true)
    (hu : c.upsert now items = .ok after) : Json.properItems after = true := by
  induction items generalizing after with
  | nil =>
    obtain ⟨j, hj, rfl⟩ := Except.map_eq_ok_iff.1 hu
    obtain ⟨time, rfl⟩ := fresh_eq_ok hj
    rfl
  | cons stored rest ih =>
    rw [Json.properItems, Bool.and_eq_true] at h
    obtain ⟨fields, rfl, ⟨-, updated, hr, rfl⟩ | ⟨-, later, hlater, rfl⟩⟩ := upsert_cons_eq_ok hu
    · rw [Json.properItems, hr.proper h.1, h.2]
      rfl
    · rw [Json.properItems, h.1, ih h.2 hlater]
      rfl

theorem Shown.of_same {items others : List Json} (h : c.Shown items)
    (hp : Json.properItems others = true) (hs : Json.sameItems others items = true) :
    c.Shown others := by
  induction h generalizing others with
  | @here fields rest htype hstatus hreason hmessage =>
    cases others with
    | nil => simp [Json.sameItems] at hs
    | cons j later =>
      rw [Json.sameItems, Bool.and_eq_true] at hs
      rw [Json.properItems, Bool.and_eq_true] at hp
      obtain ⟨fs, rfl, hl, hsame⟩ := Json.eq_obj_of_same hs.1
      have hd := (Json.isProper_obj_iff.1 hp.1).1
      have htext : ∀ {key : Key} {s : String}, Fields.get? key fields = some (.str s) →
          Fields.get? key fs = some (.str s) := by
        intro key s hk
        obtain ⟨v, hv, hvs⟩ := Json.get?_of_sameFields_right hd hl hsame hk
        rw [hv, Json.same_str.1 hvs]
      exact .here (htext htype) (htext hstatus) (htext hreason) (htext hmessage)
  | @behind fields rest htype h ih =>
    cases others with
    | nil => simp [Json.sameItems] at hs
    | cons j later =>
      rw [Json.sameItems, Bool.and_eq_true] at hs
      rw [Json.properItems, Bool.and_eq_true] at hp
      obtain ⟨fs, rfl, -, hsame⟩ := Json.eq_obj_of_same hs.1
      refine .behind ?_ (ih hp.2 hs.2)
      rw [Bool.eq_false_iff]
      intro hof
      cases hg : Fields.get? "type" fs with
      | none => simp [hg, Json.ofOption, Json.isText] at hof
      | some v =>
        obtain ⟨w, hw, hvw⟩ := Json.get?_of_sameFields_left hsame hg
        cases v with
        | str s =>
          cases w with
          | str t =>
            obtain rfl : s = t := by simpa [Json.same] using hvw
            rw [hg] at hof
            rw [hw] at htype
            exact absurd (htype.symm.trans hof) (by simp)
          | _ => simp [Json.same, Json.number?] at hvw
        | _ => simp [hg, Json.ofOption, Json.isText] at hof

theorem proper_itemsOf {j : Json} (h : j.isProper = true) {items after : List Json}
    (hi : j.itemsOf = .ok items) (hu : c.upsert now items = .ok after) :
    Json.properItems items = true := by
  cases j with
  | arr others =>
    obtain rfl := Except.ok.inj hi
    exact h
  | str s =>
    obtain rfl := Except.ok.inj hi
    refine Json.properItems_iff.2 fun j hj => ?_
    obtain ⟨_, -, rfl⟩ := List.mem_map.1 hj
    rfl
  | obj fields =>
    obtain rfl := Except.ok.inj hi
    cases fields with
    | nil => rfl
    | cons f rest =>
      -- The items are keys then, and a key has no fields.
      obtain ⟨_, hkey, -⟩ := upsert_cons_eq_ok hu
      cases hf : f.1 <;> simp [hf, Json.ofKey] at hkey
  | _ => exact absurd hi (by simp [Json.itemsOf])

theorem shown_ready {ns : String} {items waiting shown : List Json}
    (hw : (namespaceReady ns).upsert now items = .ok waiting)
    (hs : resourcesReady.upsert now waiting = .ok shown) :
    (namespaceReady ns).Shown shown ∧ resourcesReady.Shown shown := by
  have hne : resourcesReady.type ≠ (namespaceReady ns).type := by
    show "ResourcesReady" ≠ "NamespaceReady"
    decide
  exact ⟨(shown_of_upsert hw).upsert hne hs, shown_of_upsert hs⟩

end Condition

/-! ## Logs -/

namespace Activity

/-- The log with some activities behind it. -/
def log (now : Time.Instant) (activities : List Activity) (stored : Json) : Except Fault Json :=
  activities.foldlM (fun log a => a.append now log) stored

/-- A log that counts as given, or the empty one. -/
def IsLog (j : Json) : Prop := j.isProper = true ∧ (j.isTruthy = true ∨ j = .arr [])

theorem isLog_append {now : Time.Instant} {a : Activity} {stored after : Json} (h : IsLog stored)
    (ha : a.append now stored = .ok after) : IsLog after := by
  cases stored with
  | arr entries =>
    obtain ⟨e, he, rfl⟩ := Except.map_eq_ok_iff.1 ha
    obtain ⟨time, -, he⟩ := Except.bind_eq_ok_iff.1 he
    obtain rfl := Except.ok.inj he
    constructor
    · have hall := Json.properItems_iff.1 (show Json.properItems entries = true from h.1)
      refine Json.properItems_iff.2 fun j hj => ?_
      obtain hj | hj := List.mem_append.1 (List.mem_of_mem_drop hj)
      · exact hall j hj
      · obtain rfl := List.mem_singleton.1 hj
        rfl
    · left
      have hne : lastOf limit (entries ++ [.obj [("timestamp", .str time), ("event", .str a.event),
          ("message", .str a.message)]]) ≠ [] := by
        intro hnil
        have hlength := congrArg List.length hnil
        simp [limit] at hlength
      simpa [Json.isTruthy] using hne
  | _ => exact absurd ha (by simp [append])

theorem log_arr {now : Time.Instant} {activities : List Activity} {entries : List Json}
    {after : Json} (ha : log now activities (.arr entries) = .ok after) :
    ∃ later, after = .arr later := by
  induction activities generalizing entries with
  | nil => exact ⟨entries, (Except.ok.inj ha).symm⟩
  | cons a rest ih =>
    obtain ⟨next, hnext, hrest⟩ := Except.bind_eq_ok_iff.1 ha
    obtain ⟨e, -, rfl⟩ := Except.map_eq_ok_iff.1 hnext
    exact ih hrest

theorem isLog_orElse {j : Json} (h : j.isProper = true) : IsLog (j.orElse (.arr [])) := by
  rw [Json.orElse]
  split
  · rename_i htruthy
    exact ⟨h, .inl htruthy⟩
  · exact ⟨rfl, .inr rfl⟩

theorem orElse_of_isLog {j : Json} (h : IsLog j) : j.orElse (.arr []) = j := by
  rw [Json.orElse]
  split
  · rfl
  · rename_i hfalsy
    exact (h.2.resolve_left hfalsy).symm

theorem isLog_log {now : Time.Instant} {activities : List Activity} {stored after : Json}
    (h : IsLog stored) (ha : log now activities stored = .ok after) : IsLog after := by
  induction activities generalizing stored with
  | nil =>
    obtain rfl := Except.ok.inj ha
    exact h
  | cons a rest ih =>
    obtain ⟨next, hnext, hrest⟩ := Except.bind_eq_ok_iff.1 ha
    exact ih (isLog_append h hnext) hrest

end Activity

/-! ## What a pass that converges reports -/

theorem Json.orElse_obj (fields : Fields) : (Json.obj fields).orElse (.obj []) = .obj fields := by
  cases fields <;> rfl

theorem Json.entry_set_ne {key k : String} (h : k ≠ key) (j v : Json) :
    (j.set k v).entry key = j.entry key := by
  have hk : (Key.text k).identity ≠ (Key.text key).identity := by simpa using h
  cases j <;> simp [set, entry, Fields.get?_set_ne hk]

namespace PassResult

/-- The result of a pass that converges, for a tenant that is not being deleted. -/
def ready (name body : Json) (t : Declaration) (created : List String) : PassResult :=
  { start name with body := some body, declaration := some t, created := created }

/-- What it has to say for the log. -/
def readyActivities (t : Declaration) (created : List String) (previousPhase : Json) :
    List Activity :=
  (if created.isEmpty then [] else [.resourcesCreated created]) ++
    if previousPhase.isText Outcome.converged.phase then [] else [.tenantReady t.url]

/-- The fields that it writes, but for the conditions and the log. -/
def readyHeading (ns : String) (t : Declaration) (generation : Json) : Fields :=
  [("phase", .str Outcome.converged.phase), ("namespace", .str ns),
    ("observedGeneration", generation), ("retryCount", .int 0), ("url", .str t.url),
    ("message", .str "Tenant is ready")]

def readyFields (ns : String) (t : Declaration) (generation conditions log : Json) : Fields :=
  readyHeading ns t generation ++ ([("conditions", conditions), ("activityLog", log)] : Fields)

variable {s : Settings} {now : Time.Instant} {name body previous : Json} {t : Declaration}
  {created : List String}

theorem foldlM_say (now : Time.Instant) (activities : List Activity) (d : StatusDraft) :
    (activities.map StatusEvent.activity).foldlM (StatusDraft.say now) d =
      (Activity.log now activities d.log).map fun log => { d with log := log } := by
  induction activities generalizing d with
  | nil => rfl
  | cons a rest ih =>
    rw [List.map_cons, List.foldlM_cons, Activity.log, List.foldlM_cons, StatusDraft.say]
    cases h : a.append now d.log with
    | error fault => rfl
    | ok log => exact ih { d with log := log }

theorem report_ready (ns : String) (count phase : Json) :
    (ready name body t created).report ns count phase =
      .ok ⟨"Tenant is ready", .int 0, .condition (.namespaceReady ns) ::
        .condition .resourcesReady :: (readyActivities t created phase).map .activity⟩ := by
  have hactivities : ∀ (p : Prop) [Decidable p] (a : Activity),
      (if p then [] else [a]).map StatusEvent.activity = if p then [] else [.activity a] := by
    intro p _ a
    split <;> rfl
  simp only [report, ready, start, namespaceEvents, readyActivities, url, List.map_append,
    hactivities, List.append_assoc]
  rfl

theorem say_condition_eq_ok {c : Condition} {d after : StatusDraft} :
    StatusDraft.say now d (.condition c) = .ok after ↔
      ∃ items shown, d.conditions.itemsOf = .ok items ∧ c.upsert now items = .ok shown ∧
        ⟨.arr shown, d.log⟩ = after := by
  simp only [StatusDraft.say, Except.bind_eq_ok_iff]
  constructor
  · rintro ⟨items, hitems, shown, hshown, h⟩
    exact ⟨items, shown, hitems, hshown, Except.ok.inj h⟩
  · rintro ⟨items, shown, hitems, hshown, rfl⟩
    exact ⟨items, hitems, shown, hshown, rfl⟩

theorem foldlM_ready {ns : String} {activities : List Activity} {conditions log : Json}
    {draft : StatusDraft} :
    (StatusEvent.condition (.namespaceReady ns) :: .condition .resourcesReady ::
        activities.map .activity).foldlM (StatusDraft.say now) ⟨conditions, log⟩ = .ok draft ↔
      ∃ items waiting shown after, conditions.itemsOf = .ok items ∧
        (Condition.namespaceReady ns).upsert now items = .ok waiting ∧
        Condition.resourcesReady.upsert now waiting = .ok shown ∧
        Activity.log now activities log = .ok after ∧ ⟨.arr shown, after⟩ = draft := by
  simp only [List.foldlM_cons, foldlM_say, Except.bind_eq_ok_iff, Except.map_eq_ok_iff,
    say_condition_eq_ok]
  constructor
  · rintro ⟨_, ⟨items, waiting, hitems, hwaiting, rfl⟩, _, ⟨_, shown, hsame, hshown, rfl⟩,
      after, hafter, hdraft⟩
    obtain rfl := Except.ok.inj hsame
    exact ⟨items, waiting, shown, after, hitems, hwaiting, hshown, hafter, hdraft⟩
  · rintro ⟨items, waiting, shown, after, hitems, hwaiting, hshown, hafter, hdraft⟩
    exact ⟨_, ⟨items, waiting, hitems, hwaiting, rfl⟩, _, ⟨waiting, shown, rfl, hshown, rfl⟩,
      after, hafter, hdraft⟩

theorem statusFields_ready {fields : Fields} :
    (ready name body t created).statusFields s now body previous = .ok fields ↔
      ∃ conditions log generation items waiting shown after,
        before previous "conditions" (.arr []) = .ok conditions ∧
        before previous "activityLog" (.arr []) = .ok log ∧
        (body.entry "metadata" >>= Json.field "generation") = .ok generation ∧
        conditions.itemsOf = .ok items ∧
        (Condition.namespaceReady (Names.space s name.plain)).upsert now items = .ok waiting ∧
        Condition.resourcesReady.upsert now waiting = .ok shown ∧
        Activity.log now (readyActivities t created (.ofOption (previous.get? "phase"))) log =
          .ok after ∧
        readyFields (Names.space s name.plain) t generation (.arr shown) after = fields := by
  have hns : Names.space s (ready name body t created).label = Names.space s name.plain := rfl
  simp only [statusFields, hns, report_ready, Except.bind_eq_ok_iff]
  constructor
  · rintro ⟨conditions, hconditions, log, hlog, metadata, hmetadata, generation, hgeneration,
      report, hreport, draft, hdraft, h⟩
    obtain rfl := Except.ok.inj hreport
    obtain ⟨items, waiting, shown, after, hitems, hwaiting, hshown, hafter, rfl⟩ :=
      foldlM_ready.1 hdraft
    exact ⟨conditions, log, generation, items, waiting, shown, after, hconditions, hlog,
      ⟨metadata, hmetadata, hgeneration⟩, hitems, hwaiting, hshown, hafter, Except.ok.inj h⟩
  · rintro ⟨conditions, log, generation, items, waiting, shown, after, hconditions, hlog,
      ⟨metadata, hmetadata, hgeneration⟩, hitems, hwaiting, hshown, hafter, rfl⟩
    exact ⟨conditions, hconditions, log, hlog, metadata, hmetadata, generation, hgeneration, _, rfl,
      _, foldlM_ready.2 ⟨items, waiting, shown, after, hitems, hwaiting, hshown, hafter, rfl⟩, rfl⟩

end PassResult

/-! ## What a status says -/

/-- A status says all that a pass that converges has to say, if it made nothing. -/
structure ReadyStatus (ns : String) (t : Declaration) (generation : Json) (fields : Fields) :
    Prop where
  heading : PassResult.isUnchanged (.obj fields) (PassResult.readyHeading ns t generation) = true
  conditions : ∃ items, Fields.get? "conditions" fields = some (.arr items) ∧
    Json.properItems items = true ∧ (Condition.namespaceReady ns).Shown items ∧
    Condition.resourcesReady.Shown items
  log : Activity.IsLog (.ofOption (Fields.get? "activityLog" fields))

/-- The status of a body says so. -/
def SaysReady (ns : String) (t : Declaration) (body : Json) : Prop :=
  ∃ status fields generation, body.field "status" = .ok status ∧
    status.orElse (.obj []) = .obj fields ∧
    (body.entry "metadata" >>= Json.field "generation") = .ok generation ∧
    ReadyStatus ns t generation fields

namespace PassResult

variable {s : Settings} {now : Time.Instant} {name body : Json} {t : Declaration}
  {created : List String}

theorem isUnchanged_readyFields {ns : String} {generation conditions log previous : Json} :
    isUnchanged previous (readyFields ns t generation conditions log) = true ↔
      isUnchanged previous (readyHeading ns t generation) = true ∧
        (Json.ofOption (previous.get? "conditions")).same conditions = true ∧
        (Json.ofOption (previous.get? "activityLog")).same log = true := by
  simp only [isUnchanged, readyFields, List.all_append, Bool.and_eq_true, List.all_cons,
    List.all_nil, and_true]

/-- How the patch after a pass with a body comes about. -/
theorem patch_eq_ok {r : PassResult} (hb : r.body = some body) {patch : Option Json}
    (h : r.patch s now = .ok patch) :
    ∃ status fields, body.field "status" = .ok status ∧
      r.statusFields s now body (status.orElse (.obj [])) = .ok fields ∧
      ((isUnchanged (status.orElse (.obj [])) fields = true ∧ patch = none) ∨
        ∃ time, patch = some (.obj (Fields.set "lastUpdated" (.str time) fields))) := by
  rw [PassResult.patch, hb] at h
  obtain ⟨status, hstatus, h⟩ := Except.bind_eq_ok_iff.1 h
  obtain ⟨fields, hfields, h⟩ := Except.bind_eq_ok_iff.1 h
  refine ⟨status, fields, hstatus, hfields, ?_⟩
  split at h
  · rename_i hunchanged
    exact .inl ⟨hunchanged, (Except.ok.inj h).symm⟩
  · obtain ⟨time, -, h⟩ := Except.bind_eq_ok_iff.1 h
    exact .inr ⟨time, (Except.ok.inj h).symm⟩

theorem before_obj (fields : Fields) (key : String) (default : Json) :
    before (.obj fields) key default =
      .ok ((Json.ofOption (Fields.get? key fields)).orElse default) := rfl

theorem exists_obj_of_before {previous default j : Json} {key : String}
    (h : before previous key default = .ok j) : ∃ fields, previous = .obj fields := by
  obtain ⟨v, hv, -⟩ := Except.bind_eq_ok_iff.1 h
  cases previous with
  | obj fields => exact ⟨fields, rfl⟩
  | _ => exact absurd hv (by simp [Json.field])

/-- There is nothing to write, at any time, if the status says it all. -/
theorem patch_eq_none_of_saysReady (h : SaysReady (Names.space s name.plain) t body)
    (now : Time.Instant) : (ready name body t []).patch s now = .ok none := by
  obtain ⟨status, fields, generation, hstatus, hfields, hgeneration, hheading,
    ⟨items, hitems, hproper, hspace, hresources⟩, hlog⟩ := h
  have hphase : (Json.ofOption (Fields.get? "phase" fields)).isText Outcome.converged.phase =
      true := by
    have hsame : (Json.ofOption (Fields.get? "phase" fields)).same (.str Outcome.converged.phase) =
        true := List.all_eq_true.1 hheading _ List.mem_cons_self
    rw [Json.same_str.1 hsame]
    rfl
  have hconditions : before (.obj fields) "conditions" (.arr []) = .ok (.arr items) := by
    rw [before_obj, hitems]
    cases hspace <;> rfl
  have hentries : before (.obj fields) "activityLog" (.arr []) =
      .ok (.ofOption (Fields.get? "activityLog" fields)) := by
    rw [before_obj, Activity.orElse_of_isLog hlog]
  -- With nothing made and the phase as it is to be, there is nothing for the log.
  have hactivities : readyActivities t [] (.ofOption (Fields.get? "phase" fields)) = [] := by
    rw [readyActivities, hphase]
    rfl
  have hwritten := statusFields_ready.2 ⟨_, _, generation, items, items, items, _, hconditions,
    hentries, hgeneration, rfl, Condition.upsert_of_shown hspace now,
    Condition.upsert_of_shown hresources now, by rw [Json.get?_obj, hactivities]; rfl, rfl⟩
  have hsame : (Json.arr items).same (.arr items) = true := Json.same_self _ hproper
  have hunchanged : isUnchanged (.obj fields) (readyFields (Names.space s name.plain) t generation
      (.arr items) (.ofOption (Fields.get? "activityLog" fields))) = true := by
    refine isUnchanged_readyFields.2 ⟨hheading, ?_, Json.same_self _ hlog.1⟩
    rw [Json.get?_obj, hitems]
    exact hsame
  have hbody : (ready name body t []).body = some body := rfl
  simp only [patch, hbody, hstatus, hfields, hwritten, hunchanged, bind, Except.bind, if_true]
  rfl

/-- A status that is left alone says it all, whatever the pass made. -/
theorem saysReady_of_patch_eq_none (hp : body.isProper = true)
    (h : (ready name body t created).patch s now = .ok none) :
    SaysReady (Names.space s name.plain) t body := by
  obtain ⟨status, written, hstatus, hwritten, ⟨hunchanged, -⟩ | ⟨time, habsurd⟩⟩ :=
    patch_eq_ok rfl h
  · obtain ⟨conditions, log, generation, items, waiting, shown, after, hconditions, hlog,
      hgeneration, hitems, hwaiting, hshown, hafter, rfl⟩ := statusFields_ready.1 hwritten
    obtain ⟨fields, hfields⟩ := exists_obj_of_before hconditions
    rw [hfields] at hunchanged hlog
    have hproper : (Json.obj fields).isProper = true := by
      rw [← hfields]
      exact Json.isProper_orElse (Json.isProper_of_field hp hstatus) rfl
    -- What is compared is not what is stored, but it is the same, so both show the same conditions.
    obtain ⟨hheading, hsame, hsameLog⟩ := isUnchanged_readyFields.1 hunchanged
    obtain ⟨hspace, hresources⟩ := Condition.shown_ready hwaiting hshown
    refine ⟨status, fields, generation, hstatus, hfields, hgeneration, hheading, ?_, ?_⟩
    · obtain ⟨others, hothers, hitemsSame⟩ := Json.eq_arr_of_same hsame
      have hget : Fields.get? "conditions" fields = some (.arr others) :=
        Json.eq_some_of_ofOption hothers (by simp)
      have hall : Json.properItems others = true := Json.isProper_of_get? hproper hget
      exact ⟨others, hget, hall, hspace.of_same hall hitemsSame,
        hresources.of_same hall hitemsSame⟩
    · refine ⟨Json.isProper_ofOption hproper _, ?_⟩
      -- An empty list was written for a log that does not count as given, and the two are the same.
      by_cases htruthy : (Json.ofOption (Fields.get? "activityLog" fields)).isTruthy = true
      · exact .inl htruthy
      · right
        rw [before_obj, Json.orElse, if_neg htruthy] at hlog
        obtain rfl := Except.ok.inj hlog
        obtain ⟨later, rfl⟩ := Activity.log_arr hafter
        obtain ⟨entries, hentries, -⟩ := Json.eq_arr_of_same hsameLog
        rw [Json.get?_obj] at hentries
        rw [hentries] at htruthy ⊢
        simpa [Json.isTruthy] using htruthy
  · exact absurd habsurd (by simp)

theorem distinct_readyFields (ns : String) (t : Declaration) (generation conditions log : Json) :
    Fields.Distinct (readyFields ns t generation conditions log) ∧
      (Key.text "lastUpdated").identity ∉
        Fields.identities (readyFields ns t generation conditions log) := by
  rw [Fields.Distinct, show Fields.identities (readyFields ns t generation conditions log) =
    [.text "phase", .text "namespace", .text "observedGeneration", .text "retryCount", .text "url",
      .text "message", .text "conditions", .text "activityLog"] from rfl]
  decide

/-- What is laid over a status is what is read there. -/
theorem get?_overlay_readyFields (fields : Fields) {ns : String}
    {generation conditions log time : Json} {key : Key} {v : Json}
    (h : (key, v) ∈ readyFields ns t generation conditions log) :
    Fields.get? key (Fields.overlay fields
      (Fields.set "lastUpdated" time (readyFields ns t generation conditions log))) = some v := by
  obtain ⟨hdistinct, hnew⟩ := distinct_readyFields ns t generation conditions log
  have hne : (Key.text "lastUpdated").identity ≠ key.identity := by
    intro heq
    rw [heq] at hnew
    exact hnew (List.mem_map_of_mem h)
  rw [Fields.get?_overlay fields (hdistinct.set _ _), Fields.get?_set_ne hne,
    hdistinct.get?_of_mem h, Option.some_or]

/-- What comes of a proper body is proper, and it shows the conditions. -/
theorem statusFields_proper (hp : body.isProper = true) {status : Json} {written : Fields}
    (hstatus : body.field "status" = .ok status)
    (h : (ready name body t created).statusFields s now body (status.orElse (.obj [])) =
      .ok written) :
    ∃ fields generation shown after, status.orElse (.obj []) = .obj fields ∧
      (body.entry "metadata" >>= Json.field "generation") = .ok generation ∧
      generation.isProper = true ∧ Json.properItems shown = true ∧
      (Condition.namespaceReady (Names.space s name.plain)).Shown shown ∧
      Condition.resourcesReady.Shown shown ∧ Activity.IsLog after ∧
      written = readyFields (Names.space s name.plain) t generation (.arr shown) after := by
  obtain ⟨conditions, log, generation, items, waiting, shown, after, hconditions, hlog, hgeneration,
    hitems, hwaiting, hshown, hafter, rfl⟩ := statusFields_ready.1 h
  obtain ⟨fields, hfields⟩ := exists_obj_of_before hconditions
  have hproper : (Json.obj fields).isProper = true := by
    rw [← hfields]
    exact Json.isProper_orElse (Json.isProper_of_field hp hstatus) rfl
  rw [hfields] at hconditions hlog
  obtain rfl := Except.ok.inj hconditions
  obtain rfl := Except.ok.inj hlog
  obtain ⟨hspace, hresources⟩ := Condition.shown_ready hwaiting hshown
  have hkept : generation.isProper = true := by
    obtain ⟨metadata, hmetadata, hfield⟩ := Except.bind_eq_ok_iff.1 hgeneration
    exact Json.isProper_of_field (Json.isProper_of_entry hp hmetadata) hfield
  have hitemsProper := Condition.proper_itemsOf
    (Json.isProper_orElse (Json.isProper_ofOption hproper _) rfl) hitems hwaiting
  have hshownProper :=
    Condition.proper_upsert (Condition.proper_upsert hitemsProper hwaiting) hshown
  have hafterLog :=
    Activity.isLog_log (Activity.isLog_orElse (Json.isProper_ofOption hproper _)) hafter
  exact ⟨fields, generation, shown, after, hfields, hgeneration, hkept, hshownProper, hspace,
    hresources, hafterLog, rfl⟩

theorem readyStatus_of_get? {ns : String} {generation after : Json} {shown : List Json}
    {fields : Fields}
    (hread : ∀ {key : Key} {v : Json}, (key, v) ∈ readyFields ns t generation (.arr shown) after →
      Fields.get? key fields = some v)
    (hgeneration : generation.isProper = true) (hshown : Json.properItems shown = true)
    (hspace : (Condition.namespaceReady ns).Shown shown)
    (hresources : Condition.resourcesReady.Shown shown) (hafter : Activity.IsLog after) :
    ReadyStatus ns t generation fields where
  heading := by
    refine List.all_eq_true.2 fun f hf => ?_
    obtain ⟨key, v⟩ := f
    rw [Json.get?_obj, hread (List.mem_append_left _ hf)]
    refine Json.same_self v ?_
    simp only [readyHeading, List.mem_cons, Prod.mk.injEq, List.not_mem_nil, or_false] at hf
    -- All but the generation are texts and numbers that the report makes itself.
    obtain ⟨-, rfl⟩ | ⟨-, rfl⟩ | ⟨-, rfl⟩ | ⟨-, rfl⟩ | ⟨-, rfl⟩ | ⟨-, rfl⟩ := hf
    · rfl
    · rfl
    · exact hgeneration
    · rfl
    · rfl
    · rfl
  conditions :=
    ⟨shown, hread (List.mem_append_right _ List.mem_cons_self), hshown, hspace, hresources⟩
  log := by
    rw [hread (List.mem_append_right _ (List.mem_cons_of_mem _ List.mem_cons_self))]
    exact hafter

/-- A status says it all once it was written, whatever it said before and whatever the pass made. -/
theorem saysReady_of_patch (hp : body.isProper = true) {patch : Json}
    (h : (ready name body t created).patch s now = .ok (some patch)) :
    ∃ status fields changes, body.field "status" = .ok status ∧
      status.orElse (.obj []) = .obj fields ∧ patch = .obj changes ∧
      SaysReady (Names.space s name.plain) t
        (body.set "status" (.obj (Fields.overlay fields changes))) := by
  obtain ⟨status, written, hstatus, hwritten, ⟨-, habsurd⟩ | ⟨time, hpatch⟩⟩ :=
    patch_eq_ok rfl h
  · exact absurd habsurd (by simp)
  · obtain ⟨fields, generation, shown, after, hfields, hgeneration, hkept, hproper, hspace,
      hresources, hafter, rfl⟩ := statusFields_proper hp hstatus hwritten
    refine ⟨status, fields, _, hstatus, hfields, Option.some.inj hpatch, ?_⟩
    have hsays : ReadyStatus (Names.space s name.plain) t generation (Fields.overlay fields
        (Fields.set "lastUpdated" (.str time) (readyFields (Names.space s name.plain) t generation
          (.arr shown) after))) :=
      readyStatus_of_get? (get?_overlay_readyFields fields) hkept hproper hspace hresources hafter
    generalize Fields.overlay fields _ = merged at hsays ⊢
    refine ⟨.obj merged, merged, generation, ?_, Json.orElse_obj merged, ?_, hsays⟩
    · cases body with
      | obj all => rw [Json.set_obj, Json.field_obj, Fields.get?_set_self]; rfl
      | _ => exact absurd hstatus (by simp [Json.field])
    · rw [Json.entry_set_ne (by decide), hgeneration]

end PassResult

end MoodleTenancy
