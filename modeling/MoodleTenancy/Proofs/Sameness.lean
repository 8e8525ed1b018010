import Mathlib.Data.List.Perm.Subperm
import MoodleTenancy.Fault
import MoodleTenancy.Json.Same

/-!
# Sameness of proper values

JSON text has no undefined numbers, and a cluster keeps one field of a key. A value of that sort is
the same as itself, and two objects of that sort that are the same have the same keys.

* `Fields.Distinct`: no two fields have one key.
* `Json.isProper`: neither an undefined number nor a repeated key is in a value.
* `Fields.get?_overlay`: what is laid over, and else what was there.
* `Json.same_self`: proper values are the same as themselves.
* `Json.get?_of_sameFields_left`, `Json.get?_of_sameFields_right`: the fields of objects that are
  the same.
-/

namespace MoodleTenancy
set_option autoImplicit false

open Numeric

/-! ## Fields of different keys -/

namespace Fields

variable {α : Type} {fields : List (Key × α)}

def identities (fields : List (Key × α)) : List Key.Identity := fields.map fun f => f.1.identity

def Distinct (fields : List (Key × α)) : Prop := (identities fields).Nodup

instance (fields : List (Key × α)) : Decidable (Distinct fields) :=
  inferInstanceAs (Decidable (identities fields).Nodup)

theorem get?_eq_of_identity {k l : Key} (h : k.identity = l.identity)
    (fields : List (Key × α)) : get? k fields = get? l fields := by
  induction fields with
  | nil => rfl
  | cons f rest ih =>
    obtain ⟨m, v⟩ := f
    rw [get?_cons, get?_cons, h, ih]

theorem mem_identities_iff {key : Key} :
    key.identity ∈ identities fields ↔ (get? key fields).isSome = true := by
  induction fields with
  | nil => simp [identities]
  | cons f rest ih =>
    obtain ⟨k, v⟩ := f
    rw [identities, List.map_cons, List.mem_cons, ← identities, ih, get?_cons]
    by_cases hk : k.identity = key.identity
    · simp [hk]
    · simp [hk, Ne.symm hk]

theorem get?_eq_none_iff {key : Key} :
    get? key fields = none ↔ key.identity ∉ identities fields := by
  rw [mem_identities_iff]
  simp

theorem mem_of_get? {key : Key} {v : α} (h : get? key fields = some v) :
    ∃ k, k.identity = key.identity ∧ (k, v) ∈ fields := by
  induction fields with
  | nil => simp at h
  | cons f rest ih =>
    obtain ⟨k, u⟩ := f
    rw [get?_cons] at h
    by_cases hk : k.identity = key.identity
    · rw [if_pos hk, Option.some.injEq] at h
      exact ⟨k, hk, by simp [h]⟩
    · rw [if_neg hk] at h
      obtain ⟨l, hl, hmem⟩ := ih h
      exact ⟨l, hl, List.mem_cons_of_mem _ hmem⟩

theorem Distinct.get?_of_mem (h : Distinct fields) {k : Key} {v : α} (hmem : (k, v) ∈ fields) :
    get? k fields = some v := by
  induction fields with
  | nil => simp at hmem
  | cons f rest ih =>
    obtain ⟨l, u⟩ := f
    obtain ⟨hnew, hrest⟩ := List.nodup_cons.1 h
    obtain heq | hmem := List.mem_cons.1 hmem
    · obtain ⟨rfl, rfl⟩ := Prod.mk.inj heq
      rw [get?_cons, if_pos rfl]
    · have hne : l.identity ≠ k.identity := by
        intro hk
        have hin : k.identity ∈ identities rest := List.mem_map_of_mem hmem
        rw [← hk] at hin
        exact hnew hin
      rw [get?_cons, if_neg hne, ih hrest hmem]

theorem identities_set_of_isSome {key : Key} (h : (get? key fields).isSome = true) (v : α) :
    identities (set key v fields) = identities fields := by
  induction fields with
  | nil => simp at h
  | cons f rest ih =>
    obtain ⟨k, u⟩ := f
    rw [get?_cons] at h
    rw [set]
    split
    · rfl
    · rename_i hk
      rw [if_neg hk] at h
      rw [identities, List.map_cons, ← identities, ih h]
      rfl

theorem identities_set_of_none {key : Key} (h : get? key fields = none) (v : α) :
    identities (set key v fields) = identities fields ++ [key.identity] := by
  induction fields with
  | nil => rfl
  | cons f rest ih =>
    obtain ⟨k, u⟩ := f
    rw [get?_cons] at h
    by_cases hk : k.identity = key.identity
    · simp [hk] at h
    · rw [if_neg hk] at h
      rw [set, if_neg hk, identities, List.map_cons, ← identities, ih h]
      rfl

theorem Distinct.set (h : Distinct fields) (key : Key) (v : α) :
    Distinct (Fields.set key v fields) := by
  rw [Distinct]
  cases hk : get? key fields with
  | some u =>
    rw [identities_set_of_isSome (by rw [hk]; rfl)]
    exact h
  | none =>
    rw [identities_set_of_none hk]
    have hnew := get?_eq_none_iff.1 hk
    refine List.nodup_append.2 ⟨h, by simp, ?_⟩
    intro identity hi other ho
    rw [List.mem_singleton.1 ho]
    rintro rfl
    exact hnew hi

theorem get?_overlay (fields : Fields) {patch : Fields} (h : Distinct patch) (key : Key) :
    get? key (overlay fields patch) = (get? key patch).or (get? key fields) := by
  induction patch generalizing fields with
  | nil => rfl
  | cons f rest ih =>
    obtain ⟨k, v⟩ := f
    obtain ⟨hnew, hrest⟩ := List.nodup_cons.1 h
    rw [show overlay fields ((k, v) :: rest) = overlay (Fields.set k v fields) rest from rfl,
      ih _ hrest, get?_cons, get?_set]
    by_cases hk : k.identity = key.identity
    · have hnone : get? key rest = none := by
        rw [get?_eq_none_iff, ← hk]
        exact hnew
      rw [if_pos hk, if_pos hk, hnone]
      rfl
    · rw [if_neg hk, if_neg hk]

end Fields

/-! ## Proper values -/

namespace Json

mutual

/-- Whether neither an undefined number nor a repeated key is in a value. -/
def isProper : Json → Bool
  | float x => x != .undefined
  | arr items => properItems items
  | obj fields => decide (Fields.Distinct fields) && properFields fields
  | _ => true
termination_by structural j => j

def properItems : List Json → Bool
  | [] => true
  | j :: rest => isProper j && properItems rest
termination_by structural items => items

def properFields : List (Key × Json) → Bool
  | [] => true
  | (_, j) :: rest => isProper j && properFields rest
termination_by structural fields => fields

end

theorem properItems_iff {items : List Json} :
    properItems items = true ↔ ∀ j ∈ items, j.isProper = true := by
  induction items with
  | nil => simp [properItems]
  | cons j rest ih => simp [properItems, ih]

theorem properFields_iff {fields : Fields} :
    properFields fields = true ↔ ∀ f ∈ fields, f.2.isProper = true := by
  induction fields with
  | nil => simp [properFields]
  | cons f rest ih => simp [properFields, ih]

theorem isProper_obj_iff {fields : Fields} : (obj fields).isProper = true ↔
    Fields.Distinct fields ∧ ∀ f ∈ fields, f.2.isProper = true := by
  rw [isProper, Bool.and_eq_true, decide_eq_true_iff, properFields_iff]

theorem isProper_of_get? {fields : Fields} (h : (obj fields).isProper = true) {key : Key} {v : Json}
    (hv : Fields.get? key fields = some v) : v.isProper = true := by
  obtain ⟨k, -, hmem⟩ := Fields.mem_of_get? hv
  exact (isProper_obj_iff.1 h).2 _ hmem

theorem isProper_ofOption {fields : Fields} (h : (obj fields).isProper = true) (key : Key) :
    (ofOption (Fields.get? key fields)).isProper = true := by
  cases hv : Fields.get? key fields with
  | none => rfl
  | some v => exact isProper_of_get? h hv

theorem isProper_orElse {j default : Json} (h : j.isProper = true) (hd : default.isProper = true) :
    (j.orElse default).isProper = true := by
  rw [orElse]
  split
  · exact h
  · exact hd

theorem isProper_of_field {j v : Json} {key : String} (h : j.isProper = true)
    (hv : j.field key = .ok v) : v.isProper = true := by
  cases j with
  | obj fields =>
    obtain rfl := Except.ok.inj hv
    exact isProper_ofOption h _
  | _ => exact absurd hv (by simp [field])

theorem isProper_of_entry {j v : Json} {key : String} (h : j.isProper = true)
    (hv : j.entry key = .ok v) : v.isProper = true := by
  cases j with
  | obj fields =>
    rw [entry] at hv
    cases hg : Fields.get? key fields with
    | none => simp [hg] at hv
    | some u =>
      rw [hg] at hv
      obtain rfl := Except.ok.inj hv
      exact isProper_of_get? h hg
  | _ => exact absurd hv (by simp [entry])

theorem isProper_set {fields : Fields} (h : (obj fields).isProper = true) {v : Json}
    (hv : v.isProper = true) (key : Key) : (obj (Fields.set key v fields)).isProper = true := by
  obtain ⟨hdistinct, hall⟩ := isProper_obj_iff.1 h
  refine isProper_obj_iff.2 ⟨hdistinct.set key v, ?_⟩
  clear h hdistinct
  induction fields with
  | nil => simp [Fields.set, hv]
  | cons f rest ih =>
    obtain ⟨k, u⟩ := f
    obtain ⟨hu, hrest⟩ := List.forall_mem_cons.1 hall
    rw [Fields.set]
    split
    · exact List.forall_mem_cons.2 ⟨hv, hrest⟩
    · exact List.forall_mem_cons.2 ⟨hu, ih hrest⟩

theorem isProper_setOf {j v : Json} (h : j.isProper = true) (hv : v.isProper = true) (key : Key) :
    (j.set key v).isProper = true := by
  cases j with
  | obj fields => exact isProper_set h hv key
  | _ => exact h

/-! ## Sameness -/

theorem sameFields_iff {fs gs : Fields} : sameFields fs gs = true ↔
    ∀ f ∈ fs, ∃ w, Fields.get? f.1 gs = some w ∧ f.2.same w = true := by
  induction fs with
  | nil => simp [sameFields]
  | cons f rest ih =>
    obtain ⟨k, v⟩ := f
    rw [sameFields, Bool.and_eq_true, ih, List.forall_mem_cons]
    cases Fields.get? k gs <;> simp

theorem exists_rank {x : Binary64} (h : x ≠ .undefined) : ∃ a, x.rank = some a := by
  cases x with
  | undefined => exact absurd rfl h
  | finite negative units =>
    cases negative with
    | false => exact ⟨_, rfl⟩
    | true => exact ⟨_, rfl⟩
  | infinite negative =>
    cases negative with
    | false => exact ⟨_, rfl⟩
    | true => exact ⟨_, rfl⟩

theorem same_float_self {x : Binary64} (h : x ≠ .undefined) : (float x).same (float x) = true := by
  have hself : x.same x = true := by
    obtain ⟨a, ha⟩ := exists_rank h
    simp only [Binary64.same, ha, decide_true]
  simp only [same, number?, Magnitude.ofBinary64]
  cases x.toInt? with
  | some n => simp [Magnitude.same]
  | none => exact hself

mutual

theorem same_self : (j : Json) → j.isProper = true → j.same j = true
  | null, _ => rfl
  | bool b, _ => by simp [same, number?, Magnitude.same]
  | int n, _ => by simp [same, number?, Magnitude.same]
  | str s, _ => by simp [same]
  | float x, h => same_float_self (by simpa [isProper] using h)
  | arr items, h => by
    rw [same]
    exact sameItems_self items (by simpa only [isProper] using h)
  | obj fields, h => by
    obtain ⟨hdistinct, hall⟩ := isProper_obj_iff.1 h
    rw [same, beq_self_eq_true, Bool.true_and, sameFields_iff]
    rintro ⟨k, v⟩ hmem
    exact ⟨v, hdistinct.get?_of_mem hmem, same_values fields hall _ hmem⟩
termination_by structural j => j

theorem sameItems_self : (items : List Json) → properItems items = true →
    sameItems items items = true
  | [], _ => rfl
  | j :: rest, h => by
    rw [properItems, Bool.and_eq_true] at h
    rw [sameItems, same_self j h.1, sameItems_self rest h.2]
    rfl
termination_by structural items => items

theorem same_values : (fields : List (Key × Json)) → (∀ f ∈ fields, f.2.isProper = true) →
    ∀ f ∈ fields, f.2.same f.2 = true
  | [], _ => by simp
  | (k, v) :: rest, h => by
    obtain ⟨hv, hrest⟩ := List.forall_mem_cons.1 h
    exact List.forall_mem_cons.2 ⟨same_self v hv, same_values rest hrest⟩
termination_by structural fields => fields

end

theorem same_str {j : Json} {s : String} : j.same (str s) = true ↔ j = str s := by
  cases j <;> simp [same, number?]

theorem eq_arr_of_same {j : Json} {items : List Json} (h : j.same (arr items) = true) :
    ∃ others, j = arr others ∧ sameItems others items = true := by
  cases j with
  | arr others => exact ⟨others, rfl, by rwa [same] at h⟩
  | _ => simp [same, number?] at h

theorem eq_obj_of_same {j : Json} {fields : Fields} (h : j.same (obj fields) = true) :
    ∃ others, j = obj others ∧ others.length = fields.length ∧ sameFields others fields = true := by
  cases j with
  | obj others =>
    rw [same, Bool.and_eq_true, beq_iff_eq] at h
    exact ⟨others, rfl, h⟩
  | _ => simp [same, number?] at h

section Fields

variable {fs gs : Fields} {key : Key}

theorem get?_of_sameFields_left (h : sameFields fs gs = true) {v : Json}
    (hv : Fields.get? key fs = some v) :
    ∃ w, Fields.get? key gs = some w ∧ v.same w = true := by
  obtain ⟨k, hk, hmem⟩ := Fields.mem_of_get? hv
  obtain ⟨w, hw, hsame⟩ := sameFields_iff.1 h _ hmem
  exact ⟨w, by rw [← Fields.get?_eq_of_identity hk, hw], hsame⟩

/-- As many fields with different keys leave no key of the other object out. -/
theorem get?_of_sameFields_right (hd : Fields.Distinct fs) (hl : fs.length = gs.length)
    (h : sameFields fs gs = true) {w : Json} (hw : Fields.get? key gs = some w) :
    ∃ v, Fields.get? key fs = some v ∧ v.same w = true := by
  have hsub : Fields.identities fs ⊆ Fields.identities gs := by
    intro identity hi
    obtain ⟨⟨k, v⟩, hmem, rfl⟩ := List.mem_map.1 hi
    obtain ⟨u, hu, -⟩ := sameFields_iff.1 h _ hmem
    exact Fields.mem_identities_iff.2 (by rw [hu]; rfl)
  -- The keys of `fs` are among those of `gs`, all different and no fewer, so they are the same.
  have hlength : (Fields.identities gs).length ≤ (Fields.identities fs).length := by
    simp only [Fields.identities, List.length_map, hl, Nat.le_refl]
  have hperm := (List.subperm_of_subset hd hsub).perm_of_length_le hlength
  have hin : key.identity ∈ Fields.identities fs :=
    hperm.mem_iff.2 (Fields.mem_identities_iff.2 (by rw [hw]; rfl))
  obtain ⟨v, hv⟩ := Option.isSome_iff_exists.1 (Fields.mem_identities_iff.1 hin)
  obtain ⟨u, hu, hsame⟩ := get?_of_sameFields_left h hv
  obtain rfl := Option.some.inj (hw.symm.trans hu)
  exact ⟨v, hv, hsame⟩

end Fields

end Json
end MoodleTenancy
