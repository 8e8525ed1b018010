import Mathlib.Data.List.Count
import Mathlib.Data.List.Induction
import MoodleTenancy.Proofs.Reports

/-!
# Runs of statements about conditions

Whatever conditions are stored, a run of statements touches only the first entry of each type that
it names. It says there what the last statement of the type says, since the last statement that
changed the status, and it adds one entry for each type that had none.

* `Statement`: one statement about a condition, at a time that can be written.
* `changes`: the statements that change the status, each compared with what was said just before.
* `Settles`: what the statements of one type make of its entry.
* `Upserts`, `Statement.upserts`: what one statement makes of a list.
* `Ran`, `Statement.ran`: what a run of statements makes of it, by induction on the run.
-/

namespace MoodleTenancy
set_option autoImplicit false

/-- A statement about a condition, at a time that can be written. -/
structure Statement where
  moment : Time.Instant
  time : String
  written : stamp moment = .ok time
  condition : Condition

namespace Statement

/-- Makes the statement in a list of stored conditions. -/
def upsert (c : Statement) (stored : List Json) : Except Fault (List Json) :=
  c.condition.upsert c.moment stored

def run (calls : List Statement) (stored : List Json) : Except Fault (List Json) :=
  calls.foldlM (fun stored c => c.upsert stored) stored

/-- The types that statements name. -/
def named (calls : List Statement) : List String := calls.map (·.condition.type)

/-- The statements about one type. -/
def about (type : String) (calls : List Statement) : List Statement :=
  calls.filter (·.condition.type = type)

end Statement

/-! ## Entries -/

/-- The text under a key, if there is text. -/
def Fields.text? (key : Key) (fields : Fields) : Option String :=
  match Fields.get? key fields with
  | some (.str s) => some s
  | _ => none

theorem Fields.text?_of_get? {key : Key} {fields : Fields} {s : String}
    (h : Fields.get? key fields = some (.str s)) : fields.text? key = some s := by
  rw [Fields.text?, h]

theorem Fields.text?_congr {key : Key} {fields fields' : Fields}
    (h : Fields.get? key fields = Fields.get? key fields') :
    fields.text? key = fields'.text? key := by
  rw [Fields.text?, h, Fields.text?]

theorem Fields.isText_ofOption_get? (key : Key) (fields : Fields) (s : String) :
    (Json.ofOption (Fields.get? key fields)).isText s = decide (fields.text? key = some s) := by
  unfold Fields.text?
  split
  case h_1 t h => simp [h, Json.ofOption, Json.isText]
  case h_2 h =>
    cases hg : Fields.get? key fields with
    | none => simp [Json.ofOption, Json.isText]
    | some j =>
      cases j with
      | str t => exact (h t hg).elim
      | _ => simp [Json.ofOption, Json.isText]

/-- The types of stored conditions, where they are text. -/
def conditionTypes (stored : List Fields) : List (Option String) :=
  stored.map (Fields.text? "type")

/-- The first entry of a type. -/
def entryOf (type : String) (stored : List Fields) : Option Fields :=
  stored.find? (Fields.text? "type" · = some type)

theorem conditionTypes_cons (fields : Fields) (rest : List Fields) :
    conditionTypes (fields :: rest) = fields.text? "type" :: conditionTypes rest := rfl

theorem entryOf_cons (type : String) (fields : Fields) (rest : List Fields) :
    entryOf type (fields :: rest) =
      if fields.text? "type" = some type then some fields else entryOf type rest := by
  by_cases h : fields.text? "type" = some type <;> simp [entryOf, h]

/-! ## Changes of status -/

/-- The statements whose status is another than the one just before, which is at first `status`. -/
def changes (status : Option String) : List Statement → List Statement
  | [] => []
  | c :: rest =>
    if status = some c.condition.status then changes status rest
    else c :: changes (some c.condition.status) rest

/-- The status after statements of one type. -/
def statusAfter (status : Option String) (own : List Statement) : Option String :=
  (own.getLast?.map (·.condition.status)).or status

theorem changes_append (status : Option String) (own later : List Statement) :
    changes status (own ++ later) =
      changes status own ++ changes (statusAfter status own) later := by
  induction own generalizing status with
  | nil => rfl
  | cons c rest ih =>
    have after : statusAfter status (c :: rest) = statusAfter (some c.condition.status) rest := by
      cases rest <;> simp [statusAfter, List.getLast?_cons]
    rw [List.cons_append, changes, changes, after]
    split
    case isTrue h => rw [ih, h]
    case isFalse => rw [ih, List.cons_append]

/-- The keys that a statement writes to. -/
def Condition.statedKeys : List Key := ["status", "reason", "message", "lastTransitionTime"]

theorem Key.identity_text_ne {s : String} {key : Key} (h : key ≠ .text s) :
    (text s).identity ≠ key.identity := by
  cases key <;> simp_all [identity, eq_comm]

/-- What the statements of one type make of its entry, or of its absence: the last one stands, since
the last change of status. All other fields stay, and an entry that is added has no others. -/
structure Settles (own : List Statement) (before : Option Fields) (after : Fields) : Prop where
  tells : ∃ c, own.getLast? = some c ∧
    Fields.get? "status" after = some (.str c.condition.status) ∧
    Fields.get? "reason" after = some (.str c.condition.reason) ∧
    Fields.get? "message" after = some (.str c.condition.message)
  since : Fields.get? "lastTransitionTime" after =
    ((changes (before.bind (Fields.text? "status")) own).getLast?.map fun c => Json.str c.time).or
      (before.bind (Fields.get? "lastTransitionTime"))
  keeps : ∀ fields, before = some fields → ∀ key ∉ Condition.statedKeys,
    Fields.get? key after = Fields.get? key fields
  adds : before = none → ∀ key ∉ Key.text "type" :: Condition.statedKeys, Fields.get? key after = none

namespace Settles

variable {own later : List Statement} {before : Option Fields} {entry after : Fields}

theorem text?_status (h : Settles own before entry) :
    entry.text? "status" = statusAfter (before.bind (Fields.text? "status")) own := by
  obtain ⟨c, hc, hstatus, -⟩ := h.tells
  rw [Fields.text?_of_get? hstatus, statusAfter, hc]
  rfl

theorem append (h : Settles own before entry) (hl : Settles later (some entry) after) :
    Settles (own ++ later) before after where
  tells := by
    obtain ⟨c, hc, told⟩ := hl.tells
    exact ⟨c, by rw [List.getLast?_append, hc, Option.some_or], told⟩
  since := by
    rw [hl.since, Option.bind_some, Option.bind_some, h.since, h.text?_status, changes_append,
      List.getLast?_append, Option.map_or, Option.or_assoc]
  keeps fields hf key hk := (hl.keeps entry rfl key hk).trans (h.keeps fields hf key hk)
  adds hn key hk := (hl.keeps entry rfl key fun h => hk (List.mem_cons_of_mem _ h)).trans
    (h.adds hn key hk)

end Settles

/-! ## One statement -/

namespace Statement

variable (c : Statement)

/-- The entry that a statement adds. -/
def fresh : Fields :=
  [("type", .str c.condition.type), ("status", .str c.condition.status),
    ("reason", .str c.condition.reason), ("message", .str c.condition.message),
    ("lastTransitionTime", .str c.time)]

theorem settles_fresh : Settles [c] none c.fresh where
  tells := ⟨c, rfl, rfl, rfl, rfl⟩
  since := rfl
  keeps := nofun
  adds _ key hk := by
    simp only [Condition.statedKeys, List.mem_cons, List.not_mem_nil, or_false, not_or] at hk
    obtain ⟨type, status, reason, message, time⟩ := hk
    unfold fresh
    rw [Fields.get?_cons, if_neg (Key.identity_text_ne type), Fields.get?_cons,
      if_neg (Key.identity_text_ne status), Fields.get?_cons,
      if_neg (Key.identity_text_ne reason), Fields.get?_cons,
      if_neg (Key.identity_text_ne message), Fields.get?_cons,
      if_neg (Key.identity_text_ne time), Fields.get?_nil]

/-- The entry of its type after a statement. -/
def restated (fields : Fields) : Fields :=
  let stamped := if fields.text? "status" = some c.condition.status then fields
    else Fields.set "lastTransitionTime" (.str c.time) fields
  Fields.set "message" (.str c.condition.message)
    (Fields.set "reason" (.str c.condition.reason)
      (Fields.set "status" (.str c.condition.status) stamped))

theorem onto_eq (fields : Fields) :
    c.condition.onto c.moment (.obj fields) = .ok (.obj (c.restated fields)) := by
  have turns : c.condition.turns (.obj fields) =
      !decide (fields.text? "status" = some c.condition.status) := by
    rw [Condition.turns, Json.get?_obj, Fields.isText_ofOption_get?]
  unfold Condition.onto restated
  rw [turns, c.written]
  by_cases h : fields.text? "status" = some c.condition.status
  · simp [h, Condition.restated, Json.set]
  · simp [h, Condition.restated, Json.set, bind, Except.bind, pure, Except.pure]

theorem settles_restated (fields : Fields) : Settles [c] (some fields) (c.restated fields) where
  tells := ⟨c, rfl, by simp [restated, Fields.get?_set], by simp [restated, Fields.get?_set],
    by simp [restated]⟩
  since := by
    by_cases h : fields.text? "status" = some c.condition.status <;>
      simp [restated, Fields.get?_set, changes, h]
  keeps := by
    rintro _ ⟨⟩ key hk
    simp only [Condition.statedKeys, List.mem_cons, List.not_mem_nil, or_false, not_or] at hk
    obtain ⟨status, reason, message, time⟩ := hk
    unfold restated
    rw [Fields.get?_set_ne (Key.identity_text_ne message),
      Fields.get?_set_ne (Key.identity_text_ne reason),
      Fields.get?_set_ne (Key.identity_text_ne status)]
    split
    · rfl
    · exact Fields.get?_set_ne (Key.identity_text_ne time) _ _
  adds := nofun

theorem text?_type_restated (fields : Fields) :
    (c.restated fields).text? "type" = fields.text? "type" :=
  Fields.text?_congr ((c.settles_restated fields).keeps fields rfl "type" (by decide))

end Statement

/-! ## One statement in a list -/

/-- What a statement makes of a list: its type has an entry, and nothing else has changed. -/
structure Upserts (c : Statement) (stored after : List Fields) : Prop where
  types : conditionTypes after = if some c.condition.type ∈ conditionTypes stored
    then conditionTypes stored else conditionTypes stored ++ [some c.condition.type]
  entry : ∃ e, entryOf c.condition.type after = some e ∧
    Settles [c] (entryOf c.condition.type stored) e
  apart : ∀ type, type ≠ c.condition.type → entryOf type after = entryOf type stored
  stays : ∀ i, i < stored.length → (conditionTypes stored).idxOf (some c.condition.type) ≠ i →
    after[i]? = stored[i]?

theorem Statement.upserts (c : Statement) (stored : List Fields) : ∃ after : List Fields,
    c.upsert (stored.map .obj) = .ok (after.map .obj) ∧ Upserts c stored after := by
  induction stored with
  | nil =>
    have type : c.fresh.text? "type" = some c.condition.type := rfl
    refine ⟨[c.fresh], ?_, rfl, ⟨c.fresh, ?_, c.settles_fresh⟩, fun other hne => ?_, nofun⟩
    · rw [upsert, List.map_nil, Condition.upsert_nil, Condition.fresh, c.written]
      rfl
    · rw [entryOf_cons, if_pos type]
    · rw [entryOf_cons, if_neg (by simpa [type] using hne.symm)]
  | cons fields rest ih =>
    rw [upsert, List.map_cons, Condition.upsert_cons_obj, Fields.isText_ofOption_get?]
    -- An entry of the type is written over, and past any other one the statement goes on.
    by_cases h : fields.text? "type" = some c.condition.type
    case pos =>
      have type : (c.restated fields).text? "type" = some c.condition.type :=
        (c.text?_type_restated fields).trans h
      refine ⟨c.restated fields :: rest, ?_, ?_, ⟨c.restated fields, ?_, ?_⟩, fun other hne => ?_,
        fun i _ hi => ?_⟩
      · simp [h, c.onto_eq, Except.map]
      · simp [conditionTypes_cons, type, h]
      · rw [entryOf_cons, if_pos type]
      · rw [entryOf_cons, if_pos h]
        exact c.settles_restated fields
      · rw [entryOf_cons, entryOf_cons, type, h]
        simp [hne.symm]
      · cases i with
        | zero => simp [conditionTypes_cons, h] at hi
        | succ i => rfl
    case neg =>
      obtain ⟨after, hafter, types, entry, apart, stays⟩ := ih
      refine ⟨fields :: after, ?_, ?_, ?_, fun other hne => ?_, fun i hi hne => ?_⟩
      · rw [upsert] at hafter
        simp [h, hafter, Except.map]
      · rw [conditionTypes_cons, conditionTypes_cons, types]
        simp only [List.mem_cons, Ne.symm h, false_or]
        split <;> rfl
      · rw [entryOf_cons, entryOf_cons, if_neg h, if_neg h]
        exact entry
      · rw [entryOf_cons, entryOf_cons, apart other hne]
      · cases i with
        | zero => rfl
        | succ i =>
          rw [List.getElem?_cons_succ, List.getElem?_cons_succ]
          refine stays i (Nat.lt_of_succ_lt_succ hi) fun hidx => hne ?_
          rw [conditionTypes_cons, List.idxOf_cons_ne _ h, hidx]

/-! ## Runs of statements -/

/-- The types that a run adds, in the order of their first mention. -/
def newTypes (calls : List Statement) (stored : List Fields) : List String :=
  (Statement.named calls).eraseDups.filter fun type => some type ∉ conditionTypes stored

/-- What a run of statements makes of a list. -/
structure Ran (calls : List Statement) (start after : List Fields) : Prop where
  /-- All entries keep their types and their places, and new types come behind them. -/
  types : conditionTypes after = conditionTypes start ++ (newTypes calls start).map some
  entries : ∀ type ∈ Statement.named calls, ∃ e, entryOf type after = some e ∧
    Settles (Statement.about type calls) (entryOf type start) e
  apart : ∀ type, type ∉ Statement.named calls → entryOf type after = entryOf type start
  /-- An entry that is not the first one of a type that is named is as it was. -/
  stays : ∀ i, i < start.length →
    (∀ type ∈ Statement.named calls, (conditionTypes start).idxOf (some type) ≠ i) →
      after[i]? = start[i]?

theorem Ran.nil (start : List Fields) : Ran [] start start where
  types := by simp [newTypes, Statement.named]
  entries := nofun
  apart _ _ := rfl
  stays _ _ _ := rfl

/-! ### Types in the order of their first mention -/

theorem eraseDups_concat {α : Type} [BEq α] [LawfulBEq α] (l : List α) (a : α) :
    (l ++ [a]).eraseDups = l.eraseDups ++ if a ∈ l then [] else [a] := by
  rw [List.eraseDups_append]
  by_cases h : a ∈ l <;> simp [List.removeAll, h, List.eraseDups_cons]

theorem nodup_eraseDups {α : Type} [BEq α] [LawfulBEq α] (l : List α) : l.eraseDups.Nodup := by
  induction l using List.reverseRecOn with
  | nil => exact List.nodup_nil
  | append_singleton l a ih =>
    rw [eraseDups_concat]
    split
    case isTrue => simpa using ih
    case isFalse h =>
      rw [List.nodup_append]
      refine ⟨ih, List.nodup_cons.2 ⟨List.not_mem_nil, List.nodup_nil⟩, fun b hb a' ha => ?_⟩
      rintro rfl
      rw [List.mem_singleton.1 ha, List.mem_eraseDups] at hb
      exact h hb

theorem mem_newTypes {calls : List Statement} {start : List Fields} {type : String} :
    type ∈ newTypes calls start ↔
      type ∈ Statement.named calls ∧ some type ∉ conditionTypes start := by
  simp [newTypes]

theorem nodup_newTypes (calls : List Statement) (start : List Fields) :
    (newTypes calls start).Nodup :=
  (nodup_eraseDups _).filter _

theorem named_concat (calls : List Statement) (c : Statement) :
    Statement.named (calls ++ [c]) = Statement.named calls ++ [c.condition.type] := by
  rw [Statement.named, List.map_append, Statement.named, List.map_singleton]

theorem newTypes_concat (calls : List Statement) (c : Statement) (start : List Fields) :
    (newTypes (calls ++ [c]) start).map some =
      (newTypes calls start).map some ++
        if some c.condition.type ∈ conditionTypes start ++ (newTypes calls start).map some
        then [] else [some c.condition.type] := by
  have found : some c.condition.type ∈ conditionTypes start ++ (newTypes calls start).map some ↔
      some c.condition.type ∈ conditionTypes start ∨ c.condition.type ∈ Statement.named calls := by
    simp only [List.mem_append, List.mem_map, Option.some.injEq, exists_eq_right, mem_newTypes]
    tauto
  rw [newTypes, named_concat, eraseDups_concat, List.filter_append, List.map_append, ← newTypes]
  congr 1
  by_cases hs : some c.condition.type ∈ conditionTypes start
  · rw [if_pos (found.2 (.inl hs))]
    split <;> simp [hs]
  · by_cases hn : c.condition.type ∈ Statement.named calls
    · rw [if_pos (found.2 (.inr hn)), if_pos hn]
      rfl
    · rw [if_neg (fun h => (found.1 h).elim hs hn), if_neg hn]
      simp [hs]

/-! ### Runs by their last statement -/

theorem about_concat (type : String) (calls : List Statement) (c : Statement) :
    Statement.about type (calls ++ [c]) =
      Statement.about type calls ++ if c.condition.type = type then [c] else [] := by
  by_cases h : c.condition.type = type <;> simp [Statement.about, h]

theorem about_eq_nil {type : String} {calls : List Statement}
    (h : type ∉ Statement.named calls) : Statement.about type calls = [] := by
  simpa [Statement.about, Statement.named] using h

theorem mem_named_concat {type : String} {calls : List Statement} {c : Statement} :
    type ∈ Statement.named (calls ++ [c]) ↔
      type ∈ Statement.named calls ∨ type = c.condition.type := by
  rw [named_concat, List.mem_append, List.mem_singleton]

theorem Ran.concat {calls : List Statement} {c : Statement} {start mid after : List Fields}
    (h : Ran calls start mid) (hc : Upserts c mid after) : Ran (calls ++ [c]) start after where
  types := by
    rw [hc.types, h.types, newTypes_concat]
    split
    · rw [List.append_nil]
    · rw [List.append_assoc]
  entries type hn := by
    rw [about_concat]
    by_cases ht : c.condition.type = type
    -- The last statement adds to what the earlier ones of its type made, or is the first of them.
    · obtain ⟨e, he, settles⟩ := hc.entry
      rw [ht] at he settles
      refine ⟨e, he, ?_⟩
      rw [if_pos ht]
      by_cases earlier : type ∈ Statement.named calls
      · obtain ⟨before, hbefore, settled⟩ := h.entries type earlier
        rw [hbefore] at settles
        exact settled.append settles
      · rw [h.apart type earlier] at settles
        rwa [about_eq_nil earlier]
    · rw [if_neg ht, List.append_nil, hc.apart type (Ne.symm ht)]
      exact h.entries type ((mem_named_concat.1 hn).resolve_right (Ne.symm ht))
  apart type hn := by
    rw [mem_named_concat, not_or] at hn
    exact (hc.apart type hn.2).trans (h.apart type hn.1)
  stays i hi hn := by
    have length : mid.length = start.length + (newTypes calls start).length := by
      simpa [conditionTypes] using congrArg List.length h.types
    -- The entry that the last statement is about is one of the start's, or behind all of them.
    have apart : (conditionTypes mid).idxOf (some c.condition.type) ≠ i := by
      rw [h.types, List.idxOf_append]
      split
      · exact hn _ (mem_named_concat.2 (.inr rfl))
      · have : (conditionTypes start).length = start.length := List.length_map _
        omega
    rw [hc.stays i (by omega) apart]
    exact h.stays i hi fun type ht => hn type (mem_named_concat.2 (.inl ht))

theorem Statement.run_concat (calls : List Statement) (c : Statement) (stored : List Json) :
    run (calls ++ [c]) stored = run calls stored >>= c.upsert := by
  simp [run, List.foldlM_append]

theorem Statement.ran (calls : List Statement) (start : List Fields) : ∃ after : List Fields,
    run calls (start.map .obj) = .ok (after.map .obj) ∧ Ran calls start after := by
  induction calls using List.reverseRecOn with
  | nil => exact ⟨start, rfl, .nil start⟩
  | append_singleton calls c ih =>
    obtain ⟨mid, hmid, ran⟩ := ih
    obtain ⟨after, hafter, upserts⟩ := c.upserts mid
    refine ⟨after, ?_, ran.concat upserts⟩
    rw [run_concat, hmid]
    exact hafter

/-! ## All runs -/

/-- A type that is named has an entry afterwards, and no second one unless it had one before. -/
theorem Ran.count_conditionTypes {calls : List Statement} {start after : List Fields}
    (h : Ran calls start after) (type : String) :
    (conditionTypes after).count (some type) =
      max ((conditionTypes start).count (some type))
        (if type ∈ Statement.named calls then 1 else 0) := by
  rw [h.types, List.count_append, List.count_map_of_injective _ _ fun _ _ => Option.some.inj,
    (nodup_newTypes calls start).count]
  by_cases hs : some type ∈ conditionTypes start
  · have : 0 < (conditionTypes start).count (some type) := List.count_pos_iff.2 hs
    rw [if_neg fun hn => (mem_newTypes.1 hn).2 hs]
    split <;> omega
  · rw [List.count_eq_zero.2 hs]
    simp [mem_newTypes, hs]

/-- Any run of statements, whatever is stored at first, adds one entry for each type that it is the
first to name, and settles the first entry of each type that it names. All else stays in place. -/
theorem run_settles (start : List Fields) (calls : List Statement) :
    ∃ after : List Fields, Statement.run calls (start.map .obj) = .ok (after.map .obj) ∧
      Ran calls start after ∧
      ∀ type, (conditionTypes after).count (some type) =
        max ((conditionTypes start).count (some type))
          (if type ∈ Statement.named calls then 1 else 0) := by
  obtain ⟨after, hafter, ran⟩ := Statement.ran calls start
  exact ⟨after, hafter, ran, ran.count_conditionTypes⟩

/-- Three statements about two types, over a list that has one of them twice and between these an
entry that has no type. -/
theorem run_settles_duplicates :
    let start : List Fields := [
      [("type", .str "Ready"), ("status", .str "False"), ("note", .str "kept")],
      [("reason", .str "Unnamed")],
      [("type", .str "Ready"), ("status", .str "Unknown")]]
    let calls : List Statement := [
      ⟨0, "1970-01-01T00:00:00Z", rfl, ⟨"Ready", "True", "Up", "started"⟩⟩,
      ⟨60, "1970-01-01T00:01:00Z", rfl, ⟨"Synced", "False", "Behind", "catching up"⟩⟩,
      ⟨120, "1970-01-01T00:02:00Z", rfl, ⟨"Ready", "True", "Up", "serving"⟩⟩]
    ∃ (after : List Fields) (ready synced : Fields),
      Statement.run calls (start.map .obj) = .ok (after.map .obj) ∧
      conditionTypes after = [some "Ready", none, some "Ready", some "Synced"] ∧
      (conditionTypes after).count (some "Ready") = 2 ∧
      after[1]? = start[1]? ∧ after[2]? = start[2]? ∧
      entryOf "Ready" after = some ready ∧
      Fields.get? "message" ready = some (.str "serving") ∧
      Fields.get? "lastTransitionTime" ready = some (.str "1970-01-01T00:00:00Z") ∧
      Fields.get? "note" ready = some (.str "kept") ∧
      entryOf "Synced" after = some synced ∧
      Fields.get? "lastTransitionTime" synced = some (.str "1970-01-01T00:01:00Z") := by
  intro start calls
  obtain ⟨after, hrun, ran, hcount⟩ := run_settles start calls
  obtain ⟨ready, hready, told⟩ := ran.entries "Ready" (by decide)
  obtain ⟨synced, hsynced, added⟩ := ran.entries "Synced" (by decide)
  obtain ⟨c, hc, -, -, message⟩ := told.tells
  obtain rfl : calls[2] = c := Option.some.inj hc
  refine ⟨after, ready, synced, hrun, ran.types, ?_, ?_, ?_, hready, message, told.since, ?_,
    hsynced, added.since⟩
  · exact hcount "Ready"
  · exact ran.stays 1 (by decide) (by decide)
  · exact ran.stays 2 (by decide) (by decide)
  · exact told.keeps _ rfl "note" (by decide)

end MoodleTenancy
