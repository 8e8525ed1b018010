import Mathlib.Data.List.Forall2
import MoodleTenancy.Proofs.FailureCount

/-!
# Coherence of the status

However passes follow each other, and whatever is changed in a tenant between them, its status tells
one story: of the last pass, and of the generation that this pass saw. This is so although a pass
writes nothing where it finds nothing new.

* `Condition.shownAt`: a condition as it is stored. `Condition.placed`: the conditions once one of
  them is brought up to date.
* `StatusDraft.Holds`: conditions and a log as reports leave them.
* `StatusDraft.Hears`: what comes of some events.
* `PassResult.activities`, `told`: what passes have to say for the log.
* `Records`: a status as reports leave it.
* `Json.TellsOf`: the phase, and the condition on a tenant's objects, by what a pass came to.
* `CoherentStatus`: what a status says after a report.
* `Reporting`: a body after reports, with any changes but to its status between them.
* `status_coherent`: the status after one more report.
-/

namespace MoodleTenancy
set_option autoImplicit false

open Numeric

/-! ## Stored conditions -/

namespace Condition

/-- A condition as it is stored, with the time of its last turn. -/
def shownAt (c : Condition) (time : String) : Json :=
  .obj [("type", .str c.type), ("status", .str c.status), ("reason", .str c.reason),
    ("message", .str c.message), ("lastTransitionTime", .str time)]

/-- The conditions with `c` in place of the first of its type, or behind them. -/
def placed (c : Condition) (time : String) : List (Condition × String) → List (Condition × String)
  | [] => [(c, time)]
  | p :: rest => if p.1.type = c.type then (c, time) :: rest else p :: placed c time rest

def types (stated : List (Condition × String)) : List String := stated.map (·.1.type)

section Placed

variable {c : Condition} {time : String} {stated : List (Condition × String)}

theorem mem_placed_self : (c, time) ∈ c.placed time stated := by
  induction stated with
  | nil => exact List.mem_singleton_self _
  | cons p rest ih =>
    rw [placed]
    split
    · exact List.mem_cons_self
    · exact List.mem_cons_of_mem _ ih

theorem types_placed : types (c.placed time stated) =
    if c.type ∈ types stated then types stated else types stated ++ [c.type] := by
  induction stated with
  | nil => rfl
  | cons p rest ih =>
    rw [placed]
    by_cases hp : p.1.type = c.type
    · simp [types, hp]
    · have hp' : c.type ≠ p.1.type := Ne.symm hp
      rw [if_neg hp, types, List.map_cons, ← types, ih]
      by_cases hc : c.type ∈ types rest
      · simp [types, hp', show c.type ∈ rest.map (·.1.type) from hc]
      · simp [types, hp', show c.type ∉ rest.map (·.1.type) from hc]

theorem mem_types_placed {type : String} (h : type ∈ types stated) :
    type ∈ types (c.placed time stated) := by
  rw [types_placed]
  split
  · exact h
  · exact List.mem_append_left _ h

theorem nodup_placed (h : (types stated).Nodup) : (types (c.placed time stated)).Nodup := by
  rw [types_placed]
  split
  · exact h
  · rename_i hnew
    exact List.nodup_append.2 ⟨h, by simp, by
      rintro type htype other hother rfl
      rw [List.mem_singleton.1 hother] at htype
      exact hnew htype⟩

end Placed

variable {now : Time.Instant} {c : Condition}

theorem onto_shownAt {d : Condition} {time : String} (ht : d.type = c.type) {j : Json}
    (h : c.onto now (d.shownAt time) = .ok j) : ∃ later, j = c.shownAt later := by
  rw [onto] at h
  split at h
  · obtain ⟨later, -, h⟩ := Except.bind_eq_ok_iff.1 h
    refine ⟨later, (Except.ok.inj h).symm.trans ?_⟩
    rw [shownAt, shownAt, ht]
    rfl
  · refine ⟨time, (Except.ok.inj h).symm.trans ?_⟩
    rw [shownAt, shownAt, ht]
    rfl

theorem upsert_shownAt {stated : List (Condition × String)} {after : List Json}
    (h : c.upsert now (stated.map fun p => p.1.shownAt p.2) = .ok after) :
    ∃ time, after = (c.placed time stated).map fun p => p.1.shownAt p.2 := by
  induction stated generalizing after with
  | nil =>
    obtain ⟨j, hj, rfl⟩ := Except.map_eq_ok_iff.1 h
    obtain ⟨time, rfl⟩ := fresh_eq_ok hj
    exact ⟨time, rfl⟩
  | cons p rest ih =>
    rw [List.map_cons, shownAt, upsert_cons_obj, ← shownAt] at h
    by_cases hp : p.1.type = c.type
    · rw [if_pos (by simpa [shownAt, Fields.get?, Json.ofOption, Json.isText] using hp)] at h
      obtain ⟨j, hj, rfl⟩ := Except.map_eq_ok_iff.1 h
      obtain ⟨time, rfl⟩ := onto_shownAt hp hj
      exact ⟨time, by rw [placed, if_pos hp, List.map_cons]⟩
    · rw [if_neg (by simpa [shownAt, Fields.get?, Json.ofOption, Json.isText] using hp)] at h
      obtain ⟨later, hlater, rfl⟩ := Except.map_eq_ok_iff.1 h
      obtain ⟨time, rfl⟩ := ih hlater
      exact ⟨time, by rw [placed, if_neg hp, List.map_cons]⟩

theorem eq_of_same_shownAt {c d : Condition} {time later : String}
    (h : (c.shownAt time).same (d.shownAt later) = true) : c.shownAt time = d.shownAt later := by
  have htexts : c.type = d.type ∧ c.status = d.status ∧ c.reason = d.reason ∧
      c.message = d.message ∧ time = later := by
    simpa [shownAt, Json.same, Json.sameFields, Fields.get?, and_assoc] using h
  simp [shownAt, htexts]

end Condition

theorem Activity.eq_of_same_entry {a b : Activity} {now later : Time.Instant} {i j : Json}
    (hi : a.entry now = .ok i) (hj : b.entry later = .ok j) (h : i.same j = true) : i = j := by
  obtain ⟨time, -, hi⟩ := Except.bind_eq_ok_iff.1 hi
  obtain ⟨time', -, hj⟩ := Except.bind_eq_ok_iff.1 hj
  obtain rfl := Except.ok.inj hi
  obtain rfl := Except.ok.inj hj
  have htexts : time = time' ∧ a.event = b.event ∧ a.message = b.message := by
    simpa [Json.same, Json.sameFields, Fields.get?, and_assoc] using h
  simp [htexts]

theorem Json.orElse_arr (items : List Json) : (Json.arr items).orElse (.arr []) = .arr items := by
  cases items <;> rfl

/-- Lists are equal if they are the same item by item, and the same means equal for their items. -/
theorem Json.eq_of_sameItems {items others : List Json}
    (heq : ∀ i ∈ items, ∀ j ∈ others, i.same j = true → i = j)
    (h : Json.sameItems items others = true) : items = others := by
  induction items generalizing others with
  | nil =>
    cases others with
    | nil => rfl
    | cons j rest => simp [sameItems] at h
  | cons i items ih =>
    cases others with
    | nil => simp [sameItems] at h
    | cons j others =>
      rw [sameItems, Bool.and_eq_true] at h
      have hhead := heq i List.mem_cons_self j List.mem_cons_self h.1
      have htail := ih (fun i hi j hj => heq i (List.mem_cons_of_mem _ hi) j
        (List.mem_cons_of_mem _ hj)) h.2
      rw [hhead, htail]

/-! ## What comes of events -/

namespace StatusEvent

def condition? : StatusEvent → Option Condition
  | condition c => some c
  | _ => none

/-- What an event has to say for the log. A failure has nothing if its number cannot be written. -/
def activity? : StatusEvent → Option (Except Fault Activity)
  | condition _ => none
  | activity a => some (.ok a)
  | failure attempt why => some (Activity.passFailed attempt why)

theorem filterMap_condition?_cons (c : Condition) (events : List StatusEvent) :
    (condition c :: events).filterMap condition? = c :: events.filterMap condition? := rfl

theorem filterMap_condition?_activities (l : List Activity) :
    (l.map activity).filterMap condition? = [] := by
  induction l with
  | nil => rfl
  | cons a rest ih => exact ih

theorem filterMap_activity?_cons (c : Condition) (events : List StatusEvent) :
    (condition c :: events).filterMap activity? = events.filterMap activity? := rfl

theorem filterMap_activity?_activities (l : List Activity) :
    (l.map activity).filterMap activity? = l.map .ok := by
  induction l with
  | nil => rfl
  | cons a rest ih => exact congrArg (Except.ok a :: ·) ih

end StatusEvent

/-- The entry of something that happened at some time. -/
def EntryOf (happened : Time.Instant × Activity) (entry : Json) : Prop :=
  happened.2.entry happened.1 = .ok entry

theorem exists_entryOf {happened : List (Time.Instant × Activity)} {entries : List Json}
    (h : List.Forall₂ EntryOf happened entries) : ∀ e ∈ entries, ∃ p, EntryOf p e := by
  induction h with
  | nil => simp
  | cons hp _ ih => exact List.forall_mem_cons.2 ⟨⟨_, hp⟩, ih⟩

/-- A draft has these conditions, and in its log the last of these entries. -/
structure StatusDraft.Holds (d : StatusDraft) (stated : List (Condition × String))
    (entries : List Json) : Prop where
  conditions : d.conditions = .arr (stated.map fun p => p.1.shownAt p.2)
  log : d.log = .arr (lastOf Activity.limit entries)

namespace StatusDraft.Holds

variable {d after : StatusDraft} {stated : List (Condition × String)} {entries : List Json}
  {now : Time.Instant}

theorem say_condition (h : d.Holds stated entries) {c : Condition}
    (hs : d.say now (.condition c) = .ok after) :
    ∃ time, after.Holds (c.placed time stated) entries := by
  obtain ⟨items, shown, hitems, hshown, rfl⟩ := PassResult.say_condition_eq_ok.1 hs
  rw [h.conditions] at hitems
  obtain rfl := Except.ok.inj hitems
  obtain ⟨time, rfl⟩ := Condition.upsert_shownAt hshown
  exact ⟨time, rfl, h.log⟩

theorem append (h : d.Holds stated entries) {a : Activity} {log : Json}
    (ha : a.append now d.log = .ok log) :
    ∃ e, EntryOf (now, a) e ∧
      StatusDraft.Holds { d with log := log } stated (entries ++ [e]) := by
  rw [h.log, Activity.append_arr] at ha
  obtain ⟨e, he, rfl⟩ := Except.map_eq_ok_iff.1 ha
  exact ⟨e, he, h.conditions, by rw [lastOf_append]⟩

theorem eq_of_same {other : StatusDraft} {stated' : List (Condition × String)} {entries' : List Json}
    {happened happened' : List (Time.Instant × Activity)} (h : d.Holds stated entries)
    (h' : other.Holds stated' entries') (he : List.Forall₂ EntryOf happened entries)
    (he' : List.Forall₂ EntryOf happened' entries')
    (hc : d.conditions.same other.conditions = true) (hl : d.log.same other.log = true) :
    d = other := by
  obtain ⟨conditions, log⟩ := d
  obtain ⟨conditions', log'⟩ := other
  obtain ⟨rfl, rfl⟩ := h
  obtain ⟨rfl, rfl⟩ := h'
  rw [Json.same] at hc hl
  -- All items have the form in which reports write them, so the same means equal.
  have hconditions := by
    refine Json.eq_of_sameItems (fun i hi j hj => ?_) hc
    obtain ⟨p, -, rfl⟩ := List.mem_map.1 hi
    obtain ⟨q, -, rfl⟩ := List.mem_map.1 hj
    exact Condition.eq_of_same_shownAt
  have hlog := by
    refine Json.eq_of_sameItems (fun i hi j hj => ?_) hl
    obtain ⟨p, hp⟩ := exists_entryOf he i (List.mem_of_mem_drop hi)
    obtain ⟨q, hq⟩ := exists_entryOf he' j (List.mem_of_mem_drop hj)
    exact Activity.eq_of_same_entry hp hq
  rw [hconditions, hlog]

end StatusDraft.Holds

/-- A draft after some events. They have stated conditions, each at a time of its own, and they have
had entries made in the log. -/
structure StatusDraft.Hears (now : Time.Instant) (events : List StatusEvent)
    (stated : List (Condition × String)) (entries : List Json) (after : StatusDraft)
    (cs : List (Condition × String)) (happened : List Activity) (new : List Json) : Prop where
  conditions : cs.map Prod.fst = events.filterMap StatusEvent.condition?
  activities : events.filterMap StatusEvent.activity? = happened.map .ok
  made : List.Forall₂ EntryOf (happened.map (now, ·)) new
  holds : after.Holds (cs.foldl (fun stated p => p.1.placed p.2 stated) stated) (entries ++ new)

namespace StatusDraft

variable {now : Time.Instant} {events : List StatusEvent} {stated : List (Condition × String)}
  {entries : List Json} {d after : StatusDraft} {cs : List (Condition × String)}
  {happened : List Activity} {new : List Json}

theorem Hears.condition {c : Condition} {time : String}
    (h : Hears now events (c.placed time stated) entries after cs happened new) :
    Hears now (.condition c :: events) stated entries after ((c, time) :: cs) happened new where
  conditions := by
    rw [List.map_cons, h.conditions]
    rfl
  activities := h.activities
  made := h.made
  holds := h.holds

theorem Hears.logged {e : StatusEvent} {a : Activity} {entry : Json}
    (h : Hears now events stated (entries ++ [entry]) after cs happened new)
    (hc : e.condition? = none) (ha : e.activity? = some (.ok a)) (he : EntryOf (now, a) entry) :
    Hears now (e :: events) stated entries after cs (a :: happened) (entry :: new) where
  conditions := by rw [List.filterMap_cons_none hc, h.conditions]
  activities := by rw [List.filterMap_cons_some ha, h.activities, List.map_cons]
  made := .cons he h.made
  holds := by simpa using h.holds

theorem Holds.said (h : d.Holds stated entries)
    (hs : events.foldlM (StatusDraft.say now) d = .ok after) :
    ∃ cs happened new, Hears now events stated entries after cs happened new := by
  -- On the events: each of them leaves a draft that holds what has been said by then.
  induction events generalizing d stated entries with
  | nil =>
    obtain rfl := Except.ok.inj hs
    exact ⟨[], [], [], rfl, rfl, .nil, by simpa using h⟩
  | cons e rest ih =>
    obtain ⟨next, hnext, hrest⟩ := Except.bind_eq_ok_iff.1 hs
    cases e with
    | condition c =>
      obtain ⟨time, hholds⟩ := h.say_condition hnext
      obtain ⟨cs, happened, new, hheard⟩ := ih hholds hrest
      exact ⟨_, _, _, hheard.condition⟩
    | activity a =>
      obtain ⟨log, hlog, hnext⟩ := Except.bind_eq_ok_iff.1 hnext
      obtain rfl := Except.ok.inj hnext
      obtain ⟨entry, hentry, hholds⟩ := h.append hlog
      obtain ⟨cs, happened, new, hheard⟩ := ih hholds hrest
      exact ⟨_, _, _, hheard.logged rfl rfl hentry⟩
    | failure attempt why =>
      obtain ⟨a, ha, hnext⟩ := Except.bind_eq_ok_iff.1 hnext
      obtain ⟨log, hlog, hnext⟩ := Except.bind_eq_ok_iff.1 hnext
      obtain rfl := Except.ok.inj hnext
      obtain ⟨entry, hentry, hholds⟩ := h.append hlog
      obtain ⟨cs, happened, new, hheard⟩ := ih hholds hrest
      exact ⟨_, _, _, hheard.logged rfl (congrArg some ha) hentry⟩

end StatusDraft

/-! ## What passes have to say -/

namespace PassResult

/-- The condition of a tenant's objects after a pass. -/
def resources (r : PassResult) : Condition :=
  match r.outcome with
  | .fatal => .resourcesFailed (Text.firstChars 200 r.faultText)
  | .requeue => .resourcesWaiting
  | .converged => .resourcesReady

/-- The conditions after a pass. One that fails has nothing to say of the namespace. -/
def conditions (s : Settings) (r : PassResult) : List Condition :=
  (if r.outcome = .fatal then [] else [.namespaceReady (Names.space s r.label)]) ++ [r.resources]

/-- What a pass has to say for the log of the namespace. -/
def openings (s : Settings) (r : PassResult) : List Activity :=
  if r.namespaceCreated then [.namespaceCreated (Names.space s r.label)] else []

/-- What a pass has to say for the log, after a number of failures in a row, of a tenant that was
ready or not. -/
def activities (s : Settings) (failures : Nat) (wasReady : Bool) (r : PassResult) :
    List Activity :=
  match r.outcome with
  | .fatal => [r.failure (failures + 1)]
  | .requeue => r.openings s
  | .converged =>
    r.openings s ++ (if r.created.isEmpty then [] else [.resourcesCreated r.created]) ++
      (if wasReady then [] else [.tenantReady (r.url.getD "")])

section Report

variable {s : Settings} {r : PassResult} {report : StatusReport} {failures : Nat} {phase : Json}

theorem report_of_fatal (hf : r.outcome = .fatal) (ns : String) :
    r.report ns (.int failures) phase = .ok ⟨"Reconcile failed: " ++ Text.firstChars 200 r.faultText,
      .int ((failures + 1 : Nat) : Int), [.condition r.resources,
        .failure (.int ((failures + 1 : Nat) : Int)) (Text.firstChars 150 r.faultText)]⟩ := by
  rw [PassResult.report, resources, hf]
  rfl

/-- A pass that does not fail says how the namespace and the objects are, and what it did for each of
them. -/
theorem report_eq_ok_of_ne_fatal (hf : r.outcome ≠ .fatal)
    (hr : r.report (Names.space s r.label) (.int failures) phase = .ok report) :
    report.retryCount = .int 0 ∧ ∃ made : List Activity,
      r.activities s failures (phase.isText Outcome.converged.phase) = r.openings s ++ made ∧
      report.events = .condition (.namespaceReady (Names.space s r.label)) ::
        ((r.openings s).map .activity ++ .condition r.resources :: made.map .activity) := by
  have hopened : r.namespaceEvents (Names.space s r.label) =
      .condition (.namespaceReady (Names.space s r.label)) :: (r.openings s).map .activity := by
    rw [namespaceEvents, openings]
    split <;> rfl
  have hmade : ∀ (p : Prop) [Decidable p] (a : Activity),
      (if p then [] else [StatusEvent.activity a]) = (if p then [] else [a]).map .activity := by
    intro p _ a
    split <;> rfl
  cases ho : r.outcome with
  | fatal => exact absurd ho hf
  | requeue =>
    rw [PassResult.report, ho] at hr
    obtain rfl := Except.ok.inj hr
    refine ⟨rfl, [], ?_, ?_⟩
    · rw [PassResult.activities, ho, List.append_nil]
    · rw [hopened, resources, ho]
      rfl
  | converged =>
    rw [PassResult.report, ho] at hr
    obtain rfl := Except.ok.inj hr
    refine ⟨rfl, (if r.created.isEmpty then [] else [.resourcesCreated r.created]) ++
      (if phase.isText Outcome.converged.phase then [] else [.tenantReady (r.url.getD "")]), ?_, ?_⟩
    · rw [PassResult.activities, ho, List.append_assoc]
    · rw [hopened, hmade, hmade, resources, ho]
      simp only [List.map_append, List.append_assoc, List.cons_append, List.nil_append]

/-- The activity of a failure is what the report says of it, if its number can be written at all. -/
theorem passFailed_eq_ok {n : Nat} {a : Activity}
    (h : Activity.passFailed (.int n) (Text.firstChars 150 r.faultText) = .ok a) :
    a = r.failure n := by
  by_cases hn : n < 10 ^ digitLimit
  · rw [Activity.passFailed, writtenOut_int hn] at h
    exact (Except.ok.inj h).symm
  · rw [Activity.passFailed, writtenOut_int_of_le (Nat.not_lt.1 hn)] at h
    exact absurd h (by rintro ⟨⟩)

/-- What is said of conditions, and for the log if that can be said at all. -/
theorem said_of_report
    (hr : r.report (Names.space s r.label) (.int failures) phase = .ok report)
    {activities : List Activity}
    (ha : report.events.filterMap StatusEvent.activity? = activities.map .ok) :
    report.retryCount = .int ((if r.outcome = .fatal then failures + 1 else 0 : Nat) : Int) ∧
      report.events.filterMap StatusEvent.condition? = r.conditions s ∧
      activities = r.activities s failures (phase.isText Outcome.converged.phase) := by
  by_cases hf : r.outcome = .fatal
  · rw [report_of_fatal hf] at hr
    obtain rfl := Except.ok.inj hr
    have hfailed : [Activity.passFailed (.int ((failures + 1 : Nat) : Int))
        (Text.firstChars 150 r.faultText)] = activities.map .ok := ha
    obtain ⟨a, rest, rfl, ha, hrest⟩ := List.map_eq_cons_iff.1 hfailed.symm
    refine ⟨by rw [if_pos hf], ?_, ?_⟩
    · rw [conditions, if_pos hf]
      rfl
    · rw [List.map_eq_nil_iff.1 hrest, PassResult.activities, hf, passFailed_eq_ok ha.symm]
  · obtain ⟨hcount, made, htold, hevents⟩ := report_eq_ok_of_ne_fatal hf hr
    refine ⟨by rw [hcount, if_neg hf]; rfl, ?_, ?_⟩
    · rw [hevents, StatusEvent.filterMap_condition?_cons, List.filterMap_append,
        StatusEvent.filterMap_condition?_activities, StatusEvent.filterMap_condition?_cons,
        StatusEvent.filterMap_condition?_activities, conditions, if_neg hf]
      rfl
    · have hsame : (r.openings s ++ made).map (Except.ok (ε := Fault)) = activities.map .ok := by
        rw [← ha, hevents, StatusEvent.filterMap_activity?_cons, List.filterMap_append,
          StatusEvent.filterMap_activity?_activities, StatusEvent.filterMap_activity?_cons,
          StatusEvent.filterMap_activity?_activities, List.map_append]
      rw [htold]
      exact (List.map_injective_iff.2 (fun _ _ => Except.ok.inj) hsame).symm

end Report

end PassResult

/-! ## What was said so far -/

/-- Whether the last pass with a body made all. -/
def endedReady (reports : List (Time.Instant × PassResult)) : Bool :=
  ((reports.map Prod.snd).filter (·.body.isSome)).getLast?.any (·.outcome = .converged)

/-- Whether some pass with a body got past the namespace. -/
def wasOpened (reports : List (Time.Instant × PassResult)) : Prop :=
  ∃ report ∈ reports, report.2.body.isSome = true ∧ report.2.outcome ≠ .fatal

/-- What passes have to say for the log, one after the other, after some earlier ones. -/
def toldAfter (s : Settings) (earlier : List (Time.Instant × PassResult)) :
    List (Time.Instant × PassResult) → List (Time.Instant × Activity)
  | [] => []
  | (now, r) :: rest =>
    (if r.body.isSome then
      (r.activities s (failuresInARow earlier) (endedReady earlier)).map (now, ·)
    else []) ++ toldAfter s (earlier ++ [(now, r)]) rest

/-- All that passes have had to say for the log. -/
def told (s : Settings) (reports : List (Time.Instant × PassResult)) :
    List (Time.Instant × Activity) := toldAfter s [] reports

section Told

variable {s : Settings} {reports : List (Time.Instant × PassResult)} {now : Time.Instant}
  {r : PassResult}

theorem toldAfter_append (earlier : List (Time.Instant × PassResult)) :
    toldAfter s earlier (reports ++ [(now, r)]) = toldAfter s earlier reports ++
      if r.body.isSome then
        (r.activities s (failuresInARow (earlier ++ reports))
          (endedReady (earlier ++ reports))).map (now, ·)
      else [] := by
  induction reports generalizing earlier with
  | nil => simp [toldAfter]
  | cons report rest ih =>
    obtain ⟨time, result⟩ := report
    rw [List.cons_append, toldAfter, ih, toldAfter, List.append_assoc, List.append_assoc,
      List.singleton_append]

theorem told_append (hb : r.body.isSome = true) : told s (reports ++ [(now, r)]) =
    told s reports ++
      (r.activities s (failuresInARow reports) (endedReady reports)).map (now, ·) := by
  rw [told, toldAfter_append, hb, if_pos rfl, List.nil_append, told]

theorem endedReady_append (hb : r.body.isSome = true) :
    endedReady (reports ++ [(now, r)]) = decide (r.outcome = .converged) := by
  simp [endedReady, List.filter_append, hb]

theorem wasOpened_append (hb : r.body.isSome = true) :
    wasOpened (reports ++ [(now, r)]) ↔ wasOpened reports ∨ r.outcome ≠ .fatal := by
  simp [wasOpened, or_and_right, exists_or, hb]

theorem said_append_of_none (hb : r.body = none) :
    failuresInARow (reports ++ [(now, r)]) = failuresInARow reports ∧
      endedReady (reports ++ [(now, r)]) = endedReady reports ∧
      (wasOpened (reports ++ [(now, r)]) ↔ wasOpened reports) ∧
      told s (reports ++ [(now, r)]) = told s reports := by
  refine ⟨?_, ?_, ?_, ?_⟩
  · simp [failuresInARow_append, hb]
  · simp [endedReady, List.filter_append, hb]
  · simp [wasOpened, or_and_right, exists_or, hb]
  · simp [told, toldAfter_append, hb]

end Told

/-! ## The status after a report -/

/-- A generation is a number, or is not given. -/
def Json.IsGeneration (j : Json) : Prop := j = .null ∨ ∃ n, j = .int n

theorem Json.IsGeneration.eq_of_same {i j : Json} (hi : i.IsGeneration) (hj : j.IsGeneration)
    (h : i.same j = true) : i = j := by
  obtain rfl | ⟨n, rfl⟩ := hi
  · obtain rfl | ⟨m, rfl⟩ := hj
    · rfl
    · exact absurd h (by simp [same, number?])
  · obtain rfl | ⟨m, rfl⟩ := hj
    · exact absurd h (by simp [same, number?])
    · simpa [same, number?, Magnitude.same] using h

/-- The generation that a body says, null if it says none. -/
def Json.generation (body : Json) : Json := .ofOption (body.metadatum "generation")

/-- The body has metadata with a generation, or without one. -/
def HasGeneration (body : Json) : Prop :=
  (∃ md, body.get? "metadata" = some (.obj md)) ∧ body.generation.IsGeneration

/-- The conditions and the log of a draft are those that these reports have led to. -/
structure StatusDraft.Follows (s : Settings) (reports : List (Time.Instant × PassResult))
    (d : StatusDraft) (stated : List (Condition × String)) : Prop where
  types : (Condition.types stated).Nodup
  namespaceReady : wasOpened reports → "NamespaceReady" ∈ Condition.types stated
  entries : ∃ entries, List.Forall₂ EntryOf (told s reports) entries ∧ d.Holds stated entries

/-- A status as these reports have left it. -/
structure Records (s : Settings) (reports : List (Time.Instant × PassResult)) (status : Fields) :
    Prop where
  count : countOf status = .int (failuresInARow reports)
  phase : (Json.ofOption (Fields.get? "phase" status)).isText Outcome.converged.phase =
    endedReady reports
  generation : status = [] ∨
    ∃ g, Fields.get? "observedGeneration" status = some g ∧ g.IsGeneration
  draft : ∃ stated, (draftOf status).Follows s reports stated

/-- Fields that say what these reports come to, of which `r` is the last with a body. -/
structure Describes (s : Settings) (reports : List (Time.Instant × PassResult)) (r : PassResult)
    (generation : Json) (fields : Fields) : Prop where
  phase : Fields.get? "phase" fields = some (.str r.outcome.phase)
  generation : Fields.get? "observedGeneration" fields = some generation
  count : Fields.get? "retryCount" fields = some (.int (failuresInARow reports))
  draft : ∃ (d : StatusDraft) (stated : List (Condition × String)),
    Fields.get? "conditions" fields = some d.conditions ∧
    Fields.get? "activityLog" fields = some d.log ∧ d.Follows s reports stated ∧
    ∃ time, (r.resources, time) ∈ stated

section Reports

variable {s : Settings} {reports : List (Time.Instant × PassResult)} {now : Time.Instant}
  {r : PassResult} {body : Json} {status fields : Fields} {generation : Json}

theorem StatusDraft.Follows.placed {stated : List (Condition × String)} {d after : StatusDraft}
    (h : d.Follows s reports stated) (hb : r.body.isSome = true)
    {entries new : List Json} (hentries : List.Forall₂ EntryOf (told s reports) entries)
    (hnew : List.Forall₂ EntryOf
      ((r.activities s (failuresInARow reports) (endedReady reports)).map (now, ·)) new)
    {cs : List (Condition × String)} (hcs : cs.map Prod.fst = r.conditions s)
    (ha : after.Holds (cs.foldl (fun stated p => p.1.placed p.2 stated) stated) (entries ++ new)) :
    ∃ stated', after.Follows s (reports ++ [(now, r)]) stated' ∧
      ∃ time, (r.resources, time) ∈ stated' := by
  have htold : ∃ entries', List.Forall₂ EntryOf (told s (reports ++ [(now, r)])) entries' ∧
      after.Holds (cs.foldl (fun stated p => p.1.placed p.2 stated) stated) entries' := by
    refine ⟨entries ++ new, ?_, ha⟩
    rw [told_append hb]
    exact List.rel_append hentries hnew
  -- A pass that fails states one condition. Any other one states that of the namespace before it.
  rw [PassResult.conditions] at hcs
  by_cases hf : r.outcome = .fatal
  · rw [if_pos hf, List.nil_append] at hcs
    obtain ⟨⟨_, time⟩, rest, rfl, rfl, hrest⟩ := List.map_eq_cons_iff.1 hcs
    obtain rfl := List.map_eq_nil_iff.1 hrest
    refine ⟨_, ⟨Condition.nodup_placed h.types, fun ho => ?_, htold⟩, time,
      Condition.mem_placed_self⟩
    obtain ho | ho := (wasOpened_append hb).1 ho
    · exact Condition.mem_types_placed (h.namespaceReady ho)
    · exact absurd hf ho
  · rw [if_neg hf, List.singleton_append] at hcs
    obtain ⟨⟨_, time⟩, others, rfl, rfl, hothers⟩ := List.map_eq_cons_iff.1 hcs
    obtain ⟨⟨_, later⟩, rest, rfl, rfl, hrest⟩ := List.map_eq_cons_iff.1 hothers
    obtain rfl := List.map_eq_nil_iff.1 hrest
    refine ⟨_, ⟨Condition.nodup_placed (Condition.nodup_placed h.types), fun _ => ?_, htold⟩, later,
      Condition.mem_placed_self⟩
    exact Condition.mem_types_placed (List.mem_map_of_mem (f := (·.1.type))
      (Condition.mem_placed_self (c := .namespaceReady (Names.space s r.label))))

/-- What a pass writes says what all reports come to, its own with them. -/
theorem Records.describes (h : Records s reports status) (hb : r.body.isSome = true) {md : Fields}
    (hmd : body.get? "metadata" = some (.obj md)) {written : Fields}
    (hw : r.statusFields s now body (.obj status) = .ok written) :
    ∃ report draft, written = r.fieldsOf s body.generation report draft ∧
      Describes s (reports ++ [(now, r)]) r body.generation written := by
  obtain ⟨report, hr⟩ : ∃ report, r.report (Names.space s r.label) (countOf status)
      (.ofOption (Fields.get? "phase" status)) = .ok report := by
    rw [h.count]
    by_cases hf : r.outcome = .fatal
    · exact ⟨_, r.report_of_fatal hf _⟩
    · obtain ⟨report, hr, -⟩ := r.report_of_ne_fatal hf (Names.space s r.label)
        (.int (failuresInARow reports)) (.ofOption (Fields.get? "phase" status))
      exact ⟨report, hr⟩
  rw [PassResult.statusFields_of_report hmd hr] at hw
  obtain ⟨draft, hdraft, rfl⟩ := Except.map_eq_ok_iff.1 hw
  have hgeneration : Json.ofOption (Fields.get? "generation" md) = body.generation := by
    rw [Json.generation, Json.metadatum, hmd]
    rfl
  obtain ⟨stated, hfollows⟩ := h.draft
  obtain ⟨entries, hentries, hholds⟩ := hfollows.entries
  obtain ⟨cs, activities, new, hcs, hactivities, hnew, hafter⟩ := hholds.said hdraft
  rw [h.count] at hr
  obtain ⟨hcount, hconditions, rfl⟩ := PassResult.said_of_report hr hactivities
  rw [h.phase] at hnew
  obtain ⟨stated', hfollows', hresources⟩ :=
    hfollows.placed hb hentries hnew (hcs.trans hconditions) hafter
  obtain ⟨hphase, hgen, hretries, hheld, hlog⟩ := r.get?_fieldsOf (s := s)
    (.ofOption (Fields.get? "generation" md)) report draft
  rw [hgeneration] at hphase hgen hretries hheld hlog ⊢
  refine ⟨report, draft, rfl, hphase, hgen, ?_, draft, stated', hheld, hlog, hfollows',
    hresources⟩
  rw [hretries, hcount, failuresInARow_append, if_pos hb]

theorem Describes.merged (h : Describes s reports r generation fields) (hd : Fields.Distinct fields)
    (status : Fields) (time : Json) : Describes s reports r generation
      (Fields.overlay status (Fields.set "lastUpdated" time fields)) := by
  have hread : ∀ {key : String} {v : Json}, key ≠ "lastUpdated" →
      Fields.get? key fields = some v →
      Fields.get? key (Fields.overlay status (Fields.set "lastUpdated" time fields)) = some v := by
    intro key v hkey hv
    have hne : (Key.text "lastUpdated").identity ≠ (Key.text key).identity := by
      simpa using Ne.symm hkey
    rw [Fields.get?_overlay status (hd.set _ _), Fields.get?_set_ne hne, hv, Option.some_or]
  obtain ⟨d, stated, hconditions, hlog, hfollows⟩ := h.draft
  exact ⟨hread (by decide) h.phase, hread (by decide) h.generation, hread (by decide) h.count, d,
    stated, hread (by decide) hconditions, hread (by decide) hlog, hfollows⟩

theorem draftOf_of_get? {items entries : List Json}
    (hc : Fields.get? "conditions" status = some (.arr items))
    (hl : Fields.get? "activityLog" status = some (.arr entries)) :
    draftOf status = ⟨.arr items, .arr entries⟩ := by
  have hgiven : ∀ items : List Json,
      (Json.ofOption (some (.arr items))).orElse (.arr []) = .arr items := Json.orElse_arr
  rw [draftOf, hc, hl, hgiven, hgiven]

/-- A status that is left alone has what would have been written. -/
theorem Records.unchanged (h : Records s reports status) {next : List (Time.Instant × PassResult)}
    {written : Fields} (hd : Describes s next r generation written) (hg : generation.IsGeneration)
    (hu : PassResult.isUnchanged (.obj status) written = true) :
    Describes s next r generation status := by
  have hphase : Fields.get? "phase" status = some (.str r.outcome.phase) :=
    Json.eq_some_of_ofOption (Json.same_str.1 (PassResult.same_of_unchanged hu hd.phase)) (by simp)
  obtain ⟨hcount, hretries⟩ := PassResult.count_of_unchanged h.count hd.count hu
  obtain ⟨d, stated, hconditions, hlog, hfollows, hresources⟩ := hd.draft
  obtain ⟨entries, hentries, hholds⟩ := hfollows.entries
  have hsame := PassResult.same_of_unchanged hu hconditions
  have hsameLog := PassResult.same_of_unchanged hu hlog
  -- A draft starts from what is stored, as both of its parts are lists.
  obtain ⟨items, hitems, -⟩ := Json.eq_arr_of_same (hholds.conditions ▸ hsame)
  obtain ⟨kept, hkept, -⟩ := Json.eq_arr_of_same (hholds.log ▸ hsameLog)
  rw [hitems] at hsame
  rw [hkept] at hsameLog
  have hitems := Json.eq_some_of_ofOption hitems (by simp)
  have hkept := Json.eq_some_of_ofOption hkept (by simp)
  obtain ⟨before, hbefore⟩ := h.draft
  obtain ⟨earlier, hearlier, hheld⟩ := hbefore.entries
  rw [draftOf_of_get? hitems hkept] at hheld
  obtain rfl := hheld.eq_of_same hholds hearlier hentries hsame hsameLog
  refine ⟨hphase, ?_, by rw [hretries, hcount], _, stated, ?_, ?_, hfollows, hresources⟩
  · obtain rfl | ⟨g, hget, hgiven⟩ := h.generation
    · exact absurd hphase (by simp)
    · have hsame := PassResult.same_of_unchanged hu hd.generation
      rw [hget] at hsame ⊢
      rw [hgiven.eq_of_same hg hsame]
  · exact hitems
  · exact hkept

/-- What is said after a pass with a body is what the next report starts from. -/
theorem Describes.records (h : Describes s reports r generation fields)
    (hg : generation.IsGeneration)
    (hlast : endedReady reports = decide (r.outcome = .converged)) :
    Records s reports fields where
  count := by rw [countOf, h.count, Option.getD_some]
  phase := by
    rw [h.phase, hlast]
    cases r.outcome <;> rfl
  generation := .inr ⟨generation, h.generation, hg⟩
  draft := by
    obtain ⟨d, stated, hconditions, hlog, hfollows, -⟩ := h.draft
    obtain ⟨entries, -, hholds⟩ := hfollows.entries
    rw [hholds.conditions] at hconditions
    rw [hholds.log] at hlog
    have hdraft : draftOf fields = d := by
      rw [draftOf_of_get? hconditions hlog, ← hholds.conditions, ← hholds.log]
    exact ⟨stated, by rw [hdraft]; exact hfollows⟩

theorem Records.of_none (h : Records s reports status) (hb : r.body = none) :
    Records s (reports ++ [(now, r)]) status := by
  obtain ⟨hcount, hready, hopened, htold⟩ := @said_append_of_none s reports now r hb
  obtain ⟨stated, htypes, hspace, hentries⟩ := h.draft
  refine ⟨by rw [hcount, h.count], by rw [hready, h.phase], h.generation, stated, htypes, ?_, ?_⟩
  · rw [hopened]
    exact hspace
  · rw [htold]
    exact hentries

end Reports

/-! ## Runs of reports -/

/-- A body after reports on it. Before, between and after them anything may change but its status. A
report that fails leaves the body as it is, so it is not among them. -/
inductive Reporting (s : Settings) : List (Time.Instant × PassResult) → Json → Prop where
  | start {body : Json} (hg : HasGeneration body) (hs : body.get? "status" = none) :
    Reporting s [] body
  | changed {reports : List (Time.Instant × PassResult)} {body later : Json}
    (h : Reporting s reports body) (hg : HasGeneration later)
    (hs : later.get? "status" = body.get? "status") : Reporting s reports later
  | reported {reports : List (Time.Instant × PassResult)} {body : Json} {now : Time.Instant}
    {r : PassResult} {patch : Option Json} (h : Reporting s reports body)
    (hp : (afterReport s now body (r.on body)).2 = .ok patch) :
    Reporting s (reports ++ [(now, r)]) (afterReport s now body (r.on body)).1

/-- A body whose status is as these reports have left it. -/
structure KeepsStatus (s : Settings) (reports : List (Time.Instant × PassResult)) (body : Json) :
    Prop where
  generation : HasGeneration body
  status : ∃ status, (Json.ofOption (body.get? "status")).orElse (.obj []) = .obj status ∧
    Records s reports status

section Runs

variable {s : Settings} {reports : List (Time.Instant × PassResult)} {now : Time.Instant}
  {r : PassResult} {body : Json} {patch : Option Json}

theorem patch_of_afterReport (hp : (afterReport s now body r).2 = .ok patch) :
    r.patch s now = .ok patch ∧
      (afterReport s now body r).1 = patch.elim body (mergeStatus body) := by
  rw [afterReport] at hp ⊢
  cases hr : r.patch s now with
  | error fault => simp [hr] at hp
  | ok written =>
    cases written with
    | none =>
      rw [hr] at hp
      obtain rfl := Except.ok.inj hp
      exact ⟨rfl, rfl⟩
    | some fields =>
      rw [hr] at hp
      obtain rfl := Except.ok.inj hp
      exact ⟨rfl, rfl⟩

namespace KeepsStatus

/-- One more report of a pass with a body, whether it writes something or not. -/
theorem described (h : KeepsStatus s reports body) (hb : r.body.isSome = true)
    (hp : (afterReport s now body (r.on body)).2 = .ok patch) :
    HasGeneration (afterReport s now body (r.on body)).1 ∧ ∃ fields,
      (afterReport s now body (r.on body)).1.get? "status" = some (.obj fields) ∧
      Describes s (reports ++ [(now, r)]) r body.generation fields := by
  obtain ⟨hpatch, hafter⟩ := patch_of_afterReport hp
  obtain ⟨status, hstored, hrecords⟩ := h.status
  obtain ⟨⟨md, hmd⟩, hgiven⟩ := h.generation
  obtain ⟨all, rfl⟩ : ∃ all, body = .obj all := by
    cases body with
    | obj all => exact ⟨all, rfl⟩
    | _ => exact absurd hmd (by simp [Json.get?])
  obtain ⟨_, written, hfield, hwritten, hcases⟩ :=
    PassResult.patch_eq_ok (PassResult.body_on_of_isSome hb _) hpatch
  obtain rfl := Except.ok.inj hfield
  rw [← Json.get?_obj, hstored] at hwritten hcases
  obtain ⟨report, draft, hfields, hdescribes⟩ := hrecords.describes hb hmd
    (show r.statusFields s now (.obj all) (.obj status) = .ok written from hwritten)
  rw [hafter]
  obtain ⟨hunchanged, rfl⟩ | ⟨time, rfl⟩ := hcases
  · have hkept := hrecords.unchanged hdescribes hgiven hunchanged
    refine ⟨h.generation, status, ?_, hkept⟩
    -- A status that counts as given is the one that is stored.
    rw [Json.orElse] at hstored
    split at hstored
    · exact Json.eq_some_of_ofOption hstored (by simp)
    · obtain rfl : [] = status := Json.obj.inj hstored
      exact absurd hkept.phase (by simp)
  · have hmerged : mergeStatus (.obj all) (.obj (Fields.set "lastUpdated" (.str time) written)) =
        (Json.obj all).set "status"
          (.obj (Fields.overlay status (Fields.set "lastUpdated" (.str time) written))) := by
      simp only [mergeStatus, hstored]
    rw [Option.elim_some, hmerged]
    have hdistinct : Fields.Distinct written := by
      rw [hfields]
      exact PassResult.distinct_fieldsOf _ _ _
    have hgenerationKept : HasGeneration ((Json.obj all).set "status"
        (.obj (Fields.overlay status (Fields.set "lastUpdated" (.str time) written)))) := by
      rw [HasGeneration, Json.generation, Json.metadatum, Json.get?_set_ne (by decide)]
      exact h.generation
    refine ⟨hgenerationKept, _, ?_, hdescribes.merged hdistinct status (.str time)⟩
    rw [Json.set_obj, Json.get?_obj, Fields.get?_set_self]

theorem reported (h : KeepsStatus s reports body)
    (hp : (afterReport s now body (r.on body)).2 = .ok patch) :
    KeepsStatus s (reports ++ [(now, r)]) (afterReport s now body (r.on body)).1 := by
  cases hb : r.body with
  | none =>
    obtain ⟨status, hstored, hrecords⟩ := h.status
    simp only [afterReport, PassResult.patch_of_body_eq_none (PassResult.body_on_of_none hb body)]
    exact ⟨h.generation, status, hstored, hrecords.of_none hb⟩
  | some seen =>
    have hsome : r.body.isSome = true := by rw [hb]; rfl
    obtain ⟨hgiven, fields, hfields, hdescribes⟩ := h.described hsome hp
    refine ⟨hgiven, fields, ?_, hdescribes.records h.generation.2 (endedReady_append hsome)⟩
    rw [hfields]
    exact Json.orElse_obj fields

theorem counts (h : KeepsStatus s reports body) :
    ∃ status, Counts body status (failuresInARow reports) := by
  obtain ⟨status, hstored, hrecords⟩ := h.status
  obtain ⟨stated, hfollows⟩ := hrecords.draft
  obtain ⟨entries, -, hholds⟩ := hfollows.entries
  refine ⟨status, h.generation.1, hstored, ⟨⟨_, hholds.conditions, ?_⟩, _, hholds.log⟩,
    hrecords.count⟩
  intro j hj
  obtain ⟨p, -, rfl⟩ := List.mem_map.1 hj
  exact ⟨_, rfl⟩

theorem exists_patch (h : KeepsStatus s reports body) {time : String} (ht : stamp now = .ok time)
    (hn : failuresInARow (reports ++ [(now, r)]) < 10 ^ digitLimit) :
    ∃ patch, (r.on body).patch s now = .ok patch := by
  obtain ⟨status, hcounts⟩ := h.counts
  cases hb : r.body with
  | none =>
    exact ⟨none, PassResult.patch_of_body_eq_none (PassResult.body_on_of_none hb body) s now⟩
  | some seen =>
    have hsome : r.body.isSome = true := by rw [hb]; rfl
    rw [failuresInARow_append, if_pos hsome] at hn
    by_cases hf : r.outcome = .fatal
    · rw [if_pos hf] at hn
      obtain ⟨fields, -, hpatch, -⟩ := PassResult.patch_of_fatal (s := s) hcounts hsome ht hf hn
      exact ⟨_, hpatch⟩
    · obtain ⟨fields, hpatch, -⟩ | ⟨hpatch, -⟩ :=
        PassResult.patch_of_ne_fatal (s := s) hcounts hsome ht hf
      · exact ⟨_, hpatch⟩
      · exact ⟨_, hpatch⟩

end KeepsStatus

theorem Reporting.keeps (h : Reporting s reports body) : KeepsStatus s reports body := by
  -- On the run: nothing has been said at its start, and changes leave the status alone.
  induction h with
  | start hg hs =>
    refine ⟨hg, [], by rw [hs]; rfl, rfl, rfl, .inl rfl, [], List.nodup_nil, ?_, [], .nil, rfl, rfl⟩
    rintro ⟨report, hreport, -⟩
    exact absurd hreport List.not_mem_nil
  | changed _ hg hs ih =>
    obtain ⟨status, hstored, hrecords⟩ := ih.status
    exact ⟨hg, status, by rw [hs, hstored], hrecords⟩
  | reported _ hp ih => exact ih.reported hp

end Runs

/-! ## Coherence -/

/-- The stored conditions of a type. -/
def Json.conditionsOf (type : String) (status : Json) : List Json :=
  match status.get? "conditions" with
  | some (.arr items) => items.filter fun j => (ofOption (j.get? "type")).isText type
  | _ => []

/-- That a status has this phase and one condition on a tenant's objects, with this status and
reason. -/
def Json.Tells (status : Json) (phase ready reason : String) : Prop :=
  status.get? "phase" = some (.str phase) ∧
    ∃ c, status.conditionsOf "ResourcesReady" = [c] ∧
      c.get? "status" = some (.str ready) ∧ c.get? "reason" = some (.str reason)

/-- That a status tells of a pass that came to this. -/
def Json.TellsOf (status : Json) : Outcome → Prop
  | .converged => status.Tells "Ready" "True" "Provisioned"
  | .requeue => status.Tells "Provisioning" "False" "WaitingForNamespace"
  | .fatal => status.Tells "Failed" "False" "Error"

/-- What a status says after these reports, of which `r` is the last with a body. -/
structure CoherentStatus (s : Settings) (reports : List (Time.Instant × PassResult))
    (r : PassResult) (generation status : Json) : Prop where
  tells : status.TellsOf r.outcome
  observedGeneration : status.get? "observedGeneration" = some generation
  namespaceReady : (status.conditionsOf "NamespaceReady").length ≤ 1
  namespaceReady_of_opened :
    wasOpened reports → (status.conditionsOf "NamespaceReady").length = 1
  retryCount : ∃ n : Nat, status.get? "retryCount" = some (.int n) ∧
    (0 < n ↔ status.get? "phase" = some (.str "Failed"))
  /-- The log is the end of all that passes have had to say. -/
  activityLog : ∃ entries recent, List.Forall₂ EntryOf (told s reports) entries ∧
    status.get? "activityLog" = some (.arr recent) ∧ recent <:+ entries ∧
    recent.length = min 15 entries.length

section CoherentStatus

variable {s : Settings} {reports : List (Time.Instant × PassResult)} {r : PassResult}
  {generation : Json} {fields : Fields}

theorem Condition.conditionsOf_shownAt {stated : List (Condition × String)}
    (h : Fields.get? "conditions" fields = some (.arr (stated.map fun p => p.1.shownAt p.2)))
    (type : String) : (Json.obj fields).conditionsOf type =
      (stated.filter fun p => p.1.type = type).map fun p => p.1.shownAt p.2 := by
  have hof : ((fun j => (Json.ofOption (Json.get? "type" j)).isText type) ∘
      fun p : Condition × String => p.1.shownAt p.2) = fun p => decide (p.1.type = type) := rfl
  rw [Json.conditionsOf, Json.get?_obj, h]
  simp only [List.filter_map, hof]

theorem Condition.filter_eq_singleton {stated : List (Condition × String)}
    (h : (types stated).Nodup) {p : Condition × String} (hp : p ∈ stated) :
    (stated.filter fun q => q.1.type = p.1.type) = [p] := by
  induction stated with
  | nil => exact absurd hp List.not_mem_nil
  | cons q rest ih =>
    -- No two conditions have one type, so none of the others is selected beside this one.
    obtain ⟨hnew, hrest⟩ : q.1.type ∉ types rest ∧ (types rest).Nodup := List.nodup_cons.1 h
    have hne : ∀ p ∈ rest, q.1.type ≠ p.1.type := by
      intro p hp heq
      rw [heq] at hnew
      exact hnew (List.mem_map_of_mem hp)
    obtain rfl | hp := List.mem_cons.1 hp
    · have hothers : (rest.filter fun q => q.1.type = p.1.type) = [] :=
        List.filter_eq_nil_iff.2 fun q hq => by simpa using Ne.symm (hne q hq)
      rw [List.filter_cons_of_pos (by simp), hothers]
    · rw [List.filter_cons_of_neg (by simpa using hne p hp), ih hrest hp]

theorem Condition.length_filter_le_one {stated : List (Condition × String)}
    (h : (types stated).Nodup) (type : String) :
    (stated.filter fun q => q.1.type = type).length ≤ 1 := by
  cases hf : stated.filter fun q => q.1.type = type with
  | nil => exact Nat.zero_le 1
  | cons p rest =>
    have hmem : p ∈ stated.filter fun q => q.1.type = type := by rw [hf]; exact List.mem_cons_self
    obtain ⟨hp, htype⟩ := List.mem_filter.1 hmem
    have hone := filter_eq_singleton h hp
    rw [show p.1.type = type by simpa using htype, hf] at hone
    rw [hone]
    exact Nat.le_refl 1

theorem PassResult.resources_type (r : PassResult) : r.resources.type = "ResourcesReady" := by
  rw [PassResult.resources]
  cases r.outcome <;> rfl

theorem Json.tellsOf_outcome {status : Json} {time : String}
    (hphase : status.get? "phase" = some (.str r.outcome.phase))
    (hone : status.conditionsOf "ResourcesReady" = [r.resources.shownAt time]) :
    status.TellsOf r.outcome := by
  rw [PassResult.resources] at hone
  cases ho : r.outcome <;> rw [ho] at hphase hone <;> exact ⟨hphase, _, hone, rfl, rfl⟩

theorem Outcome.phase_eq_failed {o : Outcome} : o.phase = "Failed" ↔ o = .fatal := by
  cases o <;> decide

theorem Describes.coherent (h : Describes s reports r generation fields)
    (hf : 0 < failuresInARow reports ↔ r.outcome = .fatal) :
    CoherentStatus s reports r generation (.obj fields) := by
  obtain ⟨d, stated, hconditions, hlog, ⟨htypes, hspace, entries, hentries, hholds⟩, time, hmem⟩ :=
    h.draft
  rw [hholds.conditions] at hconditions
  rw [hholds.log] at hlog
  have hof := Condition.conditionsOf_shownAt hconditions
  have hphase : (Json.obj fields).get? "phase" = some (.str r.outcome.phase) := h.phase
  have hone : (Json.obj fields).conditionsOf "ResourcesReady" = [r.resources.shownAt time] := by
    have hselected := Condition.filter_eq_singleton htypes hmem
    rw [show (r.resources, time).1.type = "ResourcesReady" from r.resources_type] at hselected
    rw [hof, hselected]
    rfl
  refine ⟨Json.tellsOf_outcome hphase hone, h.generation, ?_, ?_, ⟨_, h.count, ?_⟩, entries, _,
    hentries, hlog, List.drop_suffix _ _, length_lastOf _ _⟩
  · rw [hof, List.length_map]
    exact Condition.length_filter_le_one htypes _
  · intro ho
    obtain ⟨p, hp, htype⟩ := List.mem_map.1 (hspace ho)
    rw [hof, List.length_map, ← htype, Condition.filter_eq_singleton htypes hp]
    rfl
  · rw [hphase, Option.some.injEq, Json.str.injEq, Outcome.phase_eq_failed]
    exact hf

end CoherentStatus

/-- Whatever passes come to, and whatever changes between them, the status is coherent after each one
with a body, whether it was written or left alone. A pass without a body leaves everything as it is,
and no report fails that has a time and a number of failures which can be written. -/
theorem status_coherent (s : Settings) {reports : List (Time.Instant × PassResult)} {body : Json}
    (h : Reporting s reports body) (now : Time.Instant) (r : PassResult) :
    let after := afterReport s now body (r.on body)
    (r.body = none → after = (body, .ok none)) ∧
    (∀ time, stamp now = .ok time → failuresInARow (reports ++ [(now, r)]) < 10 ^ digitLimit →
      ∃ patch, after.2 = .ok patch) ∧
    (∀ patch, after.2 = .ok patch → r.body.isSome → ∃ status,
      after.1.get? "status" = some status ∧
      CoherentStatus s (reports ++ [(now, r)]) r body.generation status) := by
  intro after
  refine ⟨?_, ?_, ?_⟩
  · intro hb
    have hnone : (r.on body).body = none := by rw [PassResult.on, hb]; rfl
    simp only [after, afterReport, PassResult.patch_of_body_eq_none hnone]
  · intro time ht hn
    obtain ⟨patch, hpatch⟩ := h.keeps.exists_patch (s := s) ht hn
    simp only [after, afterReport, hpatch]
    cases patch <;> exact ⟨_, rfl⟩
  · intro patch hp hb
    obtain ⟨-, fields, hfields, hdescribes⟩ := h.keeps.described hb hp
    refine ⟨.obj fields, hfields, hdescribes.coherent ?_⟩
    rw [failuresInARow_append, if_pos hb]
    by_cases hf : r.outcome = .fatal
    · simp [hf]
    · simp [hf]

/-- A failure of the first generation, and after it a pass that makes all of the second. -/
theorem status_coherent_plain :
    let body (g : Int) : Json := .obj [("metadata", .obj [("generation", .int g)])]
    let failed : PassResult := { outcome := .fatal, name := .str "a", body := some (body 1) }
    let done : PassResult := { outcome := .converged, name := .str "a", body := some (body 2) }
    ∃ before after status, Reporting {} [(0, failed)] before ∧ before.generation = .int 2 ∧
      (afterReport {} 60 before (done.on before)).1 = after ∧
      after.get? "status" = some status ∧
      CoherentStatus {} [(0, failed), (60, done)] done (.int 2) status := by
  intro body failed done
  have hgiven : ∀ g, HasGeneration (body g) := fun g => ⟨⟨_, rfl⟩, .inr ⟨g, rfl⟩⟩
  have hstart : Reporting {} [] (body 1) := .start (hgiven 1) rfl
  obtain ⟨-, hwritable, hcoherent⟩ := status_coherent {} hstart 0 failed
  obtain ⟨patch, hpatch⟩ := hwritable _ rfl
    (Nat.one_lt_pow (by decide) (by decide))
  obtain ⟨status, hstatus, -⟩ := hcoherent patch hpatch rfl
  have hchanged : Reporting {} [(0, failed)] ((body 2).set "status" status) := by
    refine .changed (.reported hstart hpatch) ⟨⟨_, rfl⟩, .inr ⟨2, rfl⟩⟩ ?_
    rw [hstatus]
    rfl
  obtain ⟨-, hwritable, hcoherent⟩ := status_coherent {} hchanged 60 done
  obtain ⟨patch, hpatch⟩ := hwritable _ rfl (Nat.pow_pos (by decide))
  obtain ⟨after, hafter, hsays⟩ := hcoherent patch hpatch rfl
  exact ⟨_, _, after, hchanged, rfl, rfl, hafter, hsays⟩

end MoodleTenancy
