import Mathlib.Data.List.Forall2
import MoodleTenancy.Proofs.Acceptance
import MoodleTenancy.Proofs.References

/-!
# The grammar of declarations

Which bodies declare a tenant, and which one, said without the readers of `Validation`: a form relates
the values that have it to what they stand for.

* `Fields.given`: what an object has for a field, which goes by two names.
* `Grammar.Form`: forms; `Grammar.Whole`, `Grammar.Flag` and their kin are those of single values.
* `Grammar.Needs`, `Grammar.Allows`: a field that has to be there, and one with a default.
* `Grammar.MetadataFields`, `Grammar.SpecFields` and their kin: the parts of a declaration.
* `Grammar.Declares`: a body declares a tenant.
* `Grammar.Reads`: a reader accepts the values of a form; one lemma for each reader.
-/

namespace MoodleTenancy
set_option autoImplicit false

/-- What an object has for a field: the value under its wire name if that is a key of the object,
otherwise the one under its own name. -/
def Fields.given (wire own : String) (fields : Fields) : Option Json :=
  (Fields.get? wire fields).or (Fields.get? own fields)

namespace Grammar

open Validation
open Numeric (Binary64 wordLimit laxInteger isWord)

variable {α : Type}

/-- Which values have a form, and what each of them stands for. -/
abbrev Form (α : Type) := Json → α → Prop

/-! ## Single values -/

inductive Text : Json → String → Prop
  | text (s : String) : Text (.str s) s

/-- Text that is not empty. -/
inductive Filled : Json → String → Prop
  | text {s : String} (h : s ≠ "") : Filled (.str s) s

/-- A whole number: as such, as a truth value, in floating point within 64 bits, or as text. -/
inductive Whole : Json → Int → Prop
  | int (n : Int) : Whole (.int n) n
  | flag (b : Bool) : Whole (.bool b) (if b then 1 else 0)
  | float {x : Binary64} {n : Int} (h : x.toInt? = some n) (least : -wordLimit < n)
      (greatest : n < wordLimit) : Whole (.float x) n
  | text {s : String} {n : Int} (h : laxInteger s = .integer n) : Whole (.str s) n

def AtLeast (least : Int) : Form Int := fun j n => Whole j n ∧ least ≤ n

def Between (least greatest : Int) : Form Int := fun j n => Whole j n ∧ least ≤ n ∧ n ≤ greatest

/-- A truth value: as such, as the number zero or one, or as a word in any case. -/
inductive Flag : Json → Bool → Prop
  | flag (b : Bool) : Flag (.bool b) b
  | int (b : Bool) : Flag (.int (if b then 1 else 0)) b
  | float {x : Binary64} {b : Bool} (h : x.toInt? = some (if b then 1 else 0)) : Flag (.float x) b
  | word {s : String} {b : Bool}
      (h : String.ofList (s.toList.map Char.toLower) ∈ if b then trueWords else falseWords) :
      Flag (.str s) b

/-- An amount: text as it stands, or else a whole number. -/
inductive Amount : Json → Quantity → Prop
  | text (s : String) : Amount (.str s) (.text s)
  | whole {j : Json} {n : Int} (hj : ∀ s, j ≠ .str s) (h : Whole j n) : Amount j (.whole n)

/-- A size: text that is not empty, or an integer, which stands for its numeral. -/
inductive Size : Json → String → Prop
  | text {s : String} (h : s ≠ "") : Size (.str s) s
  | whole (n : Int) : Size (.int n) (toString n)

/-! ## Values made of others -/

inductive OrNull (F : Form α) : Json → Option α → Prop
  | null : OrNull F .null none
  | given {j : Json} {a : α} (hj : j ≠ .null) (h : F j a) : OrNull F j (some a)

/-- A list of texts. -/
def Texts : Form (List String) := fun j ss => j = .arr (ss.map .str)

/-- An object whose keys are text and whose values are all of one form. -/
def MapOf (F : Form α) : Form (List (String × α)) := fun j es =>
  ∃ fields, j = .obj fields ∧ List.Forall₂ (fun f e => f.1 = .text e.1 ∧ F f.2 e.2) fields es

/-- An object with some fields. -/
def Object (P : Fields → α → Prop) : Form α := fun j a => ∃ fields, j = .obj fields ∧ P fields a

/-! ## Fields -/

/-- A field that has to be there. -/
def Needs (wire own : String) (F : Form α) (fields : Fields) (a : α) : Prop :=
  ∃ v, fields.given wire own = some v ∧ F v a

/-- A field that may be absent and then has a default. -/
def Allows (wire own : String) (default : α) (F : Form α) (fields : Fields) (a : α) : Prop :=
  (fields.given wire own = none ∧ a = default) ∨
    ∃ v, fields.given wire own = some v ∧ F v a

/-! ## Declarations -/

structure MetadataFields (o : Fields) (m : Metadata) : Prop where
  name : Needs "name" "name" Filled o m.name
  uid : Allows "uid" "uid" none (OrNull Text) o m.uid
  resourceVersion :
    Allows "resourceVersion" "resource_version" none (OrNull Text) o m.resourceVersion
  generation : Allows "generation" "generation" none (OrNull Whole) o m.generation
  finalizers : Allows "finalizers" "finalizers" [] Texts o m.finalizers
  deletionTimestamp :
    Allows "deletionTimestamp" "deletion_timestamp" none (OrNull Text) o m.deletionTimestamp

structure ResourcesFields (o : Fields) (r : Resources) : Prop where
  requests : Allows "requests" "requests" [] (MapOf Amount) o r.requests
  limits : Allows "limits" "limits" [] (MapOf Amount) o r.limits

/-- Each field of an autoscaling block is within its own range. -/
structure AutoscalingRanges (o : Fields) (a : Autoscaling) : Prop where
  enabled : Allows "enabled" "enabled" false Flag o a.enabled
  minReplicas : Allows "minReplicas" "min_replicas" none (OrNull (AtLeast 1)) o a.minReplicas
  maxReplicas : Allows "maxReplicas" "max_replicas" 10 (AtLeast 1) o a.maxReplicas
  targetCpu : Allows "targetCPU" "target_cpu" none (OrNull (Between 1 100)) o a.targetCpu

/-- The number of replicas has room between its bounds, if autoscaling is on. -/
structure AutoscalingFields (o : Fields) (a : Autoscaling) : Prop extends AutoscalingRanges o a where
  room : a.enabled = true → a.minReplicas.getD 2 ≤ a.maxReplicas

structure StorageFields (o : Fields) (s : Storage) : Prop where
  size : Needs "size" "size" Size o s.size
  storageClass : Allows "storageClass" "storage_class" "" Text o s.storageClass

structure DatabaseFields (o : Fields) (d : Database) : Prop where
  host : Needs "host" "host" Filled o d.host
  adminSecret : Needs "adminSecret" "admin_secret" Filled o d.adminSecret
  name : Needs "name" "name" Filled o d.name
  user : Needs "user" "user" Filled o d.user
  password : Needs "password" "password" Filled o d.password

structure PhpFields (o : Fields) (p : Php) : Prop where
  maxExecutionTime :
    Allows "maxExecutionTime" "max_execution_time" 0 (AtLeast 0) o p.maxExecutionTime
  memoryLimit : Allows "memoryLimit" "memory_limit" "" Text o p.memoryLimit

structure MemcachedFields (o : Fields) (m : Memcached) : Prop where
  memoryMb : Allows "memoryMB" "memory_mb" 0 (AtLeast 0) o m.memoryMb

structure SpecFields (o : Fields) (s : Spec) : Prop where
  hostname : Needs "hostname" "hostname" Filled o s.hostname
  image : Needs "image" "image" Filled o s.image
  resources : Allows "resources" "resources" {} (Object ResourcesFields) o s.resources
  autoscaling : Allows "hpa" "autoscaling" {} (Object AutoscalingFields) o s.autoscaling
  storage : Needs "storage" "storage" (Object StorageFields) o s.storage
  database : Needs "databaseRef" "database" (Object DatabaseFields) o s.database
  php : Allows "phpSettings" "php" {} (Object PhpFields) o s.php
  memcached : Allows "memcached" "memcached" {} (Object MemcachedFields) o s.memcached

structure DeclarationFields (o : Fields) (t : Declaration) : Prop where
  apiVersion : Allows "apiVersion" "api_version" "moodle.bsu.by/v1alpha1" Text o t.apiVersion
  kind : Allows "kind" "kind" "MoodleTenant" Text o t.kind
  metadata : Needs "metadata" "metadata" (Object MetadataFields) o t.metadata
  spec : Needs "spec" "spec" (Object SpecFields) o t.spec

/-- A body declares a tenant. -/
def Declares : Form Declaration := Object DeclarationFields

/-! ## Readers of single values -/

/-- A reader accepts the values of a form, each as what it stands for. -/
def Reads (r : Reader α) (F : Form α) : Prop := ∀ j a, r j = .accepted a ↔ F j a

theorem text_reads : Reads text Text := by
  intro j s
  rw [text_eq_accepted]
  constructor
  · rintro rfl
    exact .text s
  · rintro ⟨⟩
    rfl

theorem nonEmptyText_reads : Reads nonEmptyText Filled := by
  intro j s
  rw [nonEmptyText_eq_accepted]
  constructor
  · rintro ⟨rfl, hs⟩
    exact .text hs
  · rintro ⟨hs⟩
    exact ⟨rfl, hs⟩

theorem wordOf?_eq_some {x : Binary64} {n : Int} :
    wordOf? x = some n ↔ x.toInt? = some n ∧ -wordLimit < n ∧ n < wordLimit := by
  simp [wordOf?, Option.filter_eq_some_iff]

theorem integer_float {x : Binary64} {n : Int} :
    integer (.float x) = .accepted n ↔ wordOf? x = some n := by
  cases x with
  | finite s u =>
    simp only [integer, Binary64.isFinite, Bool.not_true, Bool.false_eq_true, if_false]
    cases h : (Binary64.finite s u).toInt? with
    | none => simp [wordOf?, h, refuse]
    | some m => cases hw : wordOf? (.finite s u) <;> simp [refuse]
  | infinite s => simp [integer, Binary64.isFinite, wordOf?, Binary64.toInt?, refuse]
  | undefined => simp [integer, Binary64.isFinite, wordOf?, Binary64.toInt?, refuse]

theorem integer_str {s : String} {n : Int} :
    integer (.str s) = .accepted n ↔ laxInteger s = .integer n := by
  simp only [integer]
  cases laxInteger s <;> simp [refuse]

theorem integer_reads : Reads integer Whole := by
  intro j n
  cases j with
  | int m =>
    constructor
    · rintro ⟨⟩
      exact .int n
    · rintro ⟨⟩
      rfl
  | bool b =>
    constructor
    · rintro ⟨⟩
      exact .flag b
    · rintro ⟨⟩
      rfl
  | float x =>
    rw [integer_float, wordOf?_eq_some]
    constructor
    · rintro ⟨h, hleast, hgreatest⟩
      exact .float h hleast hgreatest
    · rintro (_ | _ | ⟨h, hleast, hgreatest⟩)
      exact ⟨h, hleast, hgreatest⟩
  | str s =>
    rw [integer_str]
    constructor
    · exact .text
    · rintro (_ | _ | _ | h)
      exact h
  | _ => constructor <;> rintro ⟨⟩

theorem atLeast_reads (least : Int) : Reads (atLeast least) (AtLeast least) := by
  intro j n
  rw [atLeast_eq_accepted, integer_reads j n, AtLeast]

theorem between_reads (least greatest : Int) :
    Reads (between least greatest) (Between least greatest) := by
  intro j n
  rw [between_eq_accepted, atLeast_reads least j n, AtLeast, and_assoc, Between]

theorem flagOfInt?_eq_some {n : Int} {b : Bool} :
    flagOfInt? n = some b ↔ n = if b then 1 else 0 := by
  unfold flagOfInt?
  split <;> cases b <;> simp_all

theorem flag_int {n : Int} {b : Bool} :
    flag (.int n) = .accepted b ↔ flagOfInt? n = some b := by
  simp only [flag]
  cases hf : flagOfInt? n with
  | none => by_cases hw : isWord n = true <;> simp [hw, refuse]
  | some c =>
    have hw : isWord n = true := by
      rw [flagOfInt?_eq_some.1 hf]
      cases c <;> decide
    simp [hw]

theorem flag_float {x : Binary64} {b : Bool} :
    flag (.float x) = .accepted b ↔ ∃ n, wordOf? x = some n ∧ flagOfInt? n = some b := by
  simp only [flag]
  cases wordOf? x with
  | none => simp [refuse]
  | some n => cases hf : flagOfInt? n <;> simp [hf, refuse]

theorem flag_str {s : String} {b : Bool} :
    flag (.str s) = .accepted b ↔
      String.ofList (s.toList.map Char.toLower) ∈ if b then trueWords else falseWords := by
  have happart : ∀ w ∈ trueWords, w ∉ falseWords := by decide
  simp only [flag]
  generalize String.ofList (s.toList.map Char.toLower) = w
  -- the words for false are tried first, which tells nothing since no word is for both
  by_cases hf : w ∈ falseWords
  · have ht : w ∉ trueWords := fun ht => happart w ht hf
    cases b <;> simp [hf, ht]
  · by_cases ht : w ∈ trueWords <;> cases b <;> simp [hf, ht, refuse]

theorem flag_reads : Reads flag Flag := by
  intro j b
  cases j with
  | bool c =>
    constructor
    · rintro ⟨⟩
      exact .flag b
    · rintro ⟨⟩
      rfl
  | int n =>
    rw [flag_int, flagOfInt?_eq_some]
    constructor
    · rintro rfl
      exact .int b
    · rintro ⟨⟩
      rfl
  | float x =>
    rw [flag_float]
    constructor
    · rintro ⟨n, hn, hb⟩
      exact .float (flagOfInt?_eq_some.1 hb ▸ (wordOf?_eq_some.1 hn).1)
    · rintro (_ | _ | ⟨h⟩)
      -- zero and one are far within the bounds of a word
      refine ⟨_, wordOf?_eq_some.2 ⟨h, ?_, ?_⟩, flagOfInt?_eq_some.2 rfl⟩
      all_goals cases b <;> decide
  | str s =>
    rw [flag_str]
    constructor
    · exact .word
    · rintro (_ | _ | _ | h)
      exact h
  | _ => constructor <;> rintro ⟨⟩

theorem quantity_of_ne_str {j : Json} (hj : ∀ s, j ≠ .str s) {q : Quantity} :
    quantity j = .accepted q ↔ ∃ n, integer j = .accepted n ∧ q = .whole n := by
  unfold quantity
  split
  · exact absurd rfl (hj _)
  · cases integer j <;> simp [eq_comm]

theorem quantity_reads : Reads quantity Amount := by
  intro j q
  by_cases hj : ∃ s, j = .str s
  · obtain ⟨s, rfl⟩ := hj
    refine ⟨fun h => Checked.accepted.inj h ▸ .text s, ?_⟩
    rintro (_ | ⟨hj, -⟩)
    · rfl
    · exact absurd rfl (hj s)
  · have hj' : ∀ s, j ≠ .str s := fun s h => hj ⟨s, h⟩
    rw [quantity_of_ne_str hj']
    constructor
    · rintro ⟨n, hn, rfl⟩
      exact .whole hj' ((integer_reads j n).1 hn)
    · rintro (s | ⟨-, h⟩)
      · exact absurd rfl (hj' s)
      · exact ⟨_, (integer_reads j _).2 h, rfl⟩

/-! ## Readers of values made of others -/

theorem nullable_reads {r : Reader α} {F : Form α} (hr : Reads r F) :
    Reads (nullable r) (OrNull F) := by
  intro j a
  by_cases hj : j = .null
  · subst hj
    refine ⟨fun h => Checked.accepted.inj h ▸ .null, ?_⟩
    rintro (_ | ⟨hj, -⟩)
    · rfl
    · exact absurd rfl hj
  · rw [nullable_of_ne_null hj, Checked.map_eq_accepted]
    constructor
    · rintro ⟨b, hb, rfl⟩
      exact .given hj ((hr j b).1 hb)
    · rintro (_ | ⟨-, h⟩)
      · exact absurd rfl hj
      · exact ⟨_, (hr j _).2 h, rfl⟩

theorem texts_reads : Reads (listOf text) Texts := fun _ _ => listOf_text_eq_accepted

theorem keyText_eq_accepted {k : Key} {s : String} : keyText k = .accepted s ↔ k = .text s := by
  cases k <;> simp [keyText, refuse, Checked.within]

theorem entries_reads {r : Reader α} {F : Form α} (hr : Reads r F) {fields : Fields}
    {es : List (String × α)} :
    entries r fields = .accepted es ↔
      List.Forall₂ (fun f e => f.1 = .text e.1 ∧ F f.2 e.2) fields es := by
  induction fields generalizing es with
  | nil => simp [entries, eq_comm]
  | cons f rest ih =>
    obtain ⟨k, v⟩ := f
    simp only [entries, Checked.and_eq_accepted, Checked.map_eq_accepted,
      Checked.within_eq_accepted, keyText_eq_accepted, ih, List.forall₂_cons_left_iff]
    constructor
    · rintro ⟨_, tail, ⟨_, ⟨_, a, ⟨s, rfl, rfl⟩, ha, rfl⟩, rfl⟩, htail, rfl⟩
      exact ⟨(s, a), tail, ⟨rfl, (hr v a).1 ha⟩, htail, rfl⟩
    · rintro ⟨⟨s, a⟩, tail, ⟨rfl, ha⟩, htail, rfl⟩
      exact ⟨_, tail, ⟨_, ⟨_, a, ⟨s, rfl, rfl⟩, (hr v a).2 ha, rfl⟩, rfl⟩, htail, rfl⟩

theorem mapOf_reads {r : Reader α} {F : Form α} (hr : Reads r F) : Reads (mapOf r) (MapOf F) := by
  intro j es
  cases j with
  | obj fields =>
    refine (entries_reads hr).trans ⟨fun h => ⟨fields, rfl, h⟩, ?_⟩
    rintro ⟨_, hj, h⟩
    exact Json.obj.inj hj ▸ h
  | _ => simp [mapOf, MapOf, refuse]

/-! ## Fields of objects -/

theorem value?_eq_given (wire own : String) (fields : Fields) :
    (⟨wire, own⟩ : Field).value? fields = fields.given wire own := by
  simp only [Field.value?, Field.find?, Fields.given]
  cases Fields.get? wire fields with
  | some v => rfl
  | none => cases Fields.get? own fields <;> rfl

/-- Only what the object has for the field has to be read as the form says. -/
theorem required_iff_needs {wire own : String} {r : Reader α} {F : Form α} {fields : Fields} {a : α}
    (hr : ∀ v, fields.given wire own = some v → (r v = .accepted a ↔ F v a)) :
    Field.required ⟨wire, own⟩ r fields = .accepted a ↔ Needs wire own F fields a := by
  rw [Field.required_eq_accepted, value?_eq_given]
  exact exists_congr fun v => and_congr_right (hr v)

theorem optional_iff_allows {wire own : String} {r : Reader α} {F : Form α} (hr : Reads r F)
    {default a : α} {fields : Fields} :
    Field.optional ⟨wire, own⟩ default r fields = .accepted a ↔
      Allows wire own default F fields a := by
  rw [Field.optional_eq_accepted, value?_eq_given]
  exact or_congr_right (exists_congr fun v => and_congr_right fun _ => hr v a)

theorem filled_iff_needs {wire own : String} {fields : Fields} {s : String} :
    Field.required ⟨wire, own⟩ nonEmptyText fields = .accepted s ↔
      Needs wire own Filled fields s :=
  required_iff_needs fun v _ => nonEmptyText_reads v s

/-! ## Readers of the parts -/

theorem metadata_reads : Reads metadata (Object MetadataFields) := by
  intro j m
  rw [metadata, model_eq_accepted]
  refine exists_congr fun o => and_congr_right fun _ => ?_
  rw [metadataFields_eq_accepted, filled_iff_needs, optional_iff_allows (nullable_reads text_reads),
    optional_iff_allows (nullable_reads text_reads),
    optional_iff_allows (nullable_reads integer_reads), optional_iff_allows texts_reads,
    optional_iff_allows (nullable_reads text_reads)]
  constructor
  · rintro ⟨hn, hu, hr, hg, hf, hd⟩
    exact ⟨hn, hu, hr, hg, hf, hd⟩
  · intro h
    exact ⟨h.name, h.uid, h.resourceVersion, h.generation, h.finalizers, h.deletionTimestamp⟩

theorem resources_reads : Reads resources (Object ResourcesFields) := by
  intro j x
  rw [resources_eq_accepted]
  refine exists_congr fun o => and_congr_right fun _ => ?_
  rw [optional_iff_allows (mapOf_reads quantity_reads),
    optional_iff_allows (mapOf_reads quantity_reads)]
  exact ⟨fun h => ⟨h.1, h.2⟩, fun h => ⟨h.requests, h.limits⟩⟩

theorem autoscalingFields_iff {fields : Fields} {x : Autoscaling} :
    autoscalingFields fields = .accepted x ↔ AutoscalingRanges fields x := by
  rw [autoscalingFields_eq_accepted, optional_iff_allows flag_reads,
    optional_iff_allows (nullable_reads (atLeast_reads 1)), optional_iff_allows (atLeast_reads 1),
    optional_iff_allows (nullable_reads (between_reads 1 100))]
  constructor
  · rintro ⟨he, hmin, hmax, hcpu⟩
    exact ⟨he, hmin, hmax, hcpu⟩
  · intro h
    exact ⟨h.enabled, h.minReplicas, h.maxReplicas, h.targetCpu⟩

theorem isConsistent_iff {a : Autoscaling} :
    a.isConsistent = true ↔ (a.enabled = true → a.minReplicas.getD 2 ≤ a.maxReplicas) := by
  rw [Autoscaling.isConsistent, Autoscaling.lowest]
  cases a.enabled <;> simp

theorem autoscaling_reads : Reads autoscaling (Object AutoscalingFields) := by
  intro j x
  rw [autoscaling_eq_accepted]
  refine exists_congr fun o => and_congr_right fun _ => ?_
  rw [autoscalingFields_iff, isConsistent_iff]
  exact ⟨fun h => ⟨h.1, h.2⟩, fun h => ⟨h.toAutoscalingRanges, h.room⟩⟩

theorem size_iff {j : Json} (hj : ∀ b, j ≠ .bool b) {s : String} :
    size j = .accepted s ↔ Size j s := by
  cases j with
  | int n =>
    constructor
    · rintro ⟨⟩
      exact .whole n
    · rintro ⟨⟩
      rfl
  | bool b => exact absurd rfl (hj b)
  | str t =>
    refine (nonEmptyText_reads (.str t) s).trans ?_
    constructor
    · rintro ⟨hs⟩
      exact .text hs
    · rintro ⟨hs⟩
      exact .text hs
  | _ => constructor <;> rintro ⟨⟩

/-- A storage whose size is no truth value. -/
theorem storage_iff {j : Json} (hj : ∀ b, j.at? ["size"] ≠ some (.bool b)) {x : Storage} :
    storage j = .accepted x ↔ Object StorageFields j x := by
  rw [storage_eq_accepted]
  refine exists_congr fun o => and_congr_right ?_
  rintro rfl
  rw [optional_iff_allows text_reads, required_iff_needs]
  · exact ⟨fun h => ⟨h.1, h.2⟩, fun h => ⟨h.size, h.storageClass⟩⟩
  · intro v hv
    refine size_iff fun b hb => hj b ?_
    rw [Fields.given, Option.or_self] at hv
    simp [Json.at?, hv, hb]

theorem database_reads : Reads database (Object DatabaseFields) := by
  intro j x
  rw [database_eq_accepted]
  refine exists_congr fun o => and_congr_right fun _ => ?_
  simp only [filled_iff_needs]
  constructor
  · rintro ⟨hh, hs, hn, hu, hp⟩
    exact ⟨hh, hs, hn, hu, hp⟩
  · intro h
    exact ⟨h.host, h.adminSecret, h.name, h.user, h.password⟩

theorem php_reads : Reads php (Object PhpFields) := by
  intro j x
  rw [php_eq_accepted]
  refine exists_congr fun o => and_congr_right fun _ => ?_
  rw [optional_iff_allows (atLeast_reads 0), optional_iff_allows text_reads]
  exact ⟨fun h => ⟨h.1, h.2⟩, fun h => ⟨h.maxExecutionTime, h.memoryLimit⟩⟩

theorem memcached_reads : Reads memcached (Object MemcachedFields) := by
  intro j x
  rw [memcached_eq_accepted]
  refine exists_congr fun o => and_congr_right fun _ => ?_
  rw [optional_iff_allows (atLeast_reads 0)]
  exact ⟨fun h => ⟨h⟩, fun h => h.memoryMb⟩

/-! ## Readers of the whole -/

theorem spec_iff {j : Json} (hj : ∀ b, j.at? ["storage", "size"] ≠ some (.bool b)) {x : Spec} :
    spec j = .accepted x ↔ Object SpecFields j x := by
  rw [spec, model_eq_accepted]
  refine exists_congr fun o => and_congr_right ?_
  rintro rfl
  have hstorage : Field.required ⟨"storage", "storage"⟩ storage o = .accepted x.storage ↔
      Needs "storage" "storage" (Object StorageFields) o x.storage := by
    refine required_iff_needs fun v hv => storage_iff fun b hb => hj b ?_
    rw [Fields.given, Option.or_self] at hv
    simpa [Json.at?, hv] using hb
  rw [specFields_eq_accepted, filled_iff_needs, filled_iff_needs,
    optional_iff_allows resources_reads, optional_iff_allows autoscaling_reads, hstorage,
    required_iff_needs fun v _ => database_reads v _, optional_iff_allows php_reads,
    optional_iff_allows memcached_reads]
  constructor
  · rintro ⟨hh, hi, hr, ha, hs, hd, hp, hm⟩
    exact ⟨hh, hi, hr, ha, hs, hd, hp, hm⟩
  · intro h
    exact ⟨h.hostname, h.image, h.resources, h.autoscaling, h.storage, h.database, h.php,
      h.memcached⟩

/-- A body is read as what it declares. The size is the one value whose reader takes more than its
form does. -/
theorem read_eq_ok_iff_declares {j : Json}
    (hj : ∀ b, j.at? ["spec", "storage", "size"] ≠ some (.bool b)) {t : Declaration} :
    Declaration.read j = .ok t ↔ Declares j t := by
  rw [read_eq_ok_iff]
  refine exists_congr fun o => and_congr_right ?_
  rintro rfl
  have hspec : Field.required ⟨"spec", "spec"⟩ spec o = .accepted t.spec ↔
      Needs "spec" "spec" (Object SpecFields) o t.spec := by
    refine required_iff_needs fun v hv => spec_iff fun b hb => hj b ?_
    rw [Fields.given, Option.or_self] at hv
    simpa [Json.at?, hv] using hb
  rw [declarationFields_eq_accepted, optional_iff_allows text_reads, optional_iff_allows text_reads,
    required_iff_needs fun v _ => metadata_reads v _, hspec]
  constructor
  · rintro ⟨ha, hk, hm, hs⟩
    exact ⟨ha, hk, hm, hs⟩
  · intro h
    exact ⟨h.apiVersion, h.kind, h.metadata, h.spec⟩

end Grammar
end MoodleTenancy
