import MoodleTenancy.Operator.Startup

/-!
# Startups that follow each other

A start that fails is made again, and access to the cluster that was loaded is not loaded again. What
an attempt does depends on the earlier ones in no other way than by whether one of them succeeded.

* `LoaderReplies.to`: the reply to a call.
* `Follows`: what an attempt does after some earlier ones.
* `LoadsOnce`: attempts that follow each other and load the access once at most.
* `follows_attempt`, `isLoaded_eq_false_iff`: one attempt, and what it leaves to the next one.
* `attempts_load_once`: attempts of an operator load once if it has a worker, and never if it has
  none.
-/

namespace MoodleTenancy
set_option autoImplicit false

/-- What is said to a call: nothing if it succeeds, else why it does not. -/
def LoaderReplies.to (replies : LoaderReplies) : LoaderCall → Option String
  | .inCluster => replies.inCluster
  | .kubeconfig _ => replies.kubeconfig

namespace Startup

/-- Why an attempt gives up when a loader fails. -/
def unloadable (why : String) : Fault :=
  .giveUp ("Cannot load Kubernetes configuration: " ++ why)

/-- What an attempt does after the earlier ones. -/
structure Follows (s : Settings) (earlier : List Startup) (replies : LoaderReplies)
    (a : Startup) : Prop where
  /-- It calls a loader unless an earlier attempt succeeded. -/
  calls_iff : a.loading.calls ≠ [] ↔ ∀ b ∈ earlier, b.fault ≠ none
  /-- The loader for pods comes first, and the one for files if that fails and may do so. -/
  calls : a.loading.calls ≠ [] → a.loading.calls = .inCluster ::
    if s.inCluster = false ∧ replies.inCluster ≠ none then
      [.kubeconfig (if s.kubeconfig = "" then none else some s.kubeconfig)]
    else []
  /-- It fails if the last loader that it calls does. -/
  fault : a.fault = (a.loading.calls.getLast?.bind replies.to).map unloadable
  posting : a.posting = s.postingEnabled
  maxWorkers : a.maxWorkers = some s.maxParallelReconciles

/-- Attempts that follow each other. -/
structure LoadsOnce (s : Settings) (replies : List LoaderReplies) (run : List Startup) : Prop where
  length : run.length = replies.length
  follows : ∀ (i : Nat) (r : LoaderReplies) (a : Startup), replies[i]? = some r →
    run[i]? = some a → Follows s (run.take i) r a
  /-- Those that fail come before the first one that does not. -/
  split : ∃ failed fine, run = failed ++ fine ∧ (∀ a ∈ failed, a.fault ≠ none) ∧
    ∀ a ∈ fine, a.fault = none
  once : (run.filter fun a => !a.loading.calls.isEmpty && a.fault.isNone).length ≤ 1

/-! ## One attempt -/

theorem loadAccess_of_loaded (s : Settings) (replies : LoaderReplies) :
    loadAccess s replies true = {} := rfl

theorem calls_loadAccess (s : Settings) (replies : LoaderReplies) :
    (loadAccess s replies false).calls = .inCluster ::
      if s.inCluster = false ∧ replies.inCluster ≠ none then [.kubeconfig s.kubeconfigFile]
      else [] := by
  rw [loadAccess, if_neg Bool.false_ne_true]
  cases replies.inCluster with
  | none => simp
  | some why => cases s.inCluster <;> simp

theorem failure_loadAccess (s : Settings) (replies : LoaderReplies) (loaded : Bool) :
    (loadAccess s replies loaded).failure =
      (loadAccess s replies loaded).calls.getLast?.bind replies.to := by
  cases loaded with
  | true => rfl
  | false =>
    rw [loadAccess, if_neg Bool.false_ne_true]
    cases hp : replies.inCluster with
    | none => simp [LoaderReplies.to, hp]
    | some why => cases s.inCluster <;> simp [LoaderReplies.to, hp]

section Attempt

variable {s : Settings}

/-- The parts of an attempt of an operator that has a worker. -/
theorem attempt_of_worker (hs : 1 ≤ s.maxParallelReconciles) (replies : LoaderReplies)
    (loaded : Bool) :
    (attempt s replies loaded).loading = loadAccess s replies loaded ∧
    (attempt s replies loaded).fault = (loadAccess s replies loaded).failure.map unloadable ∧
    (attempt s replies loaded).posting = s.postingEnabled ∧
    (attempt s replies loaded).maxWorkers = some s.maxParallelReconciles := by
  rw [attempt, if_neg (Int.not_lt.2 hs)]
  cases h : (loadAccess s replies loaded).failure <;> simp [h, unloadable]

theorem attempt_of_no_worker (hs : s.maxParallelReconciles < 1) (replies : LoaderReplies)
    (loaded : Bool) :
    attempt s replies loaded = { posting := s.postingEnabled, fault := some .tooFewWorkers } :=
  if_pos hs

theorem calls_attempt_eq_nil_iff (hs : 1 ≤ s.maxParallelReconciles) (replies : LoaderReplies)
    (loaded : Bool) : (attempt s replies loaded).loading.calls = [] ↔ loaded = true := by
  rw [(attempt_of_worker hs replies loaded).1]
  cases loaded with
  | true => simp [loadAccess_of_loaded]
  | false => simp [calls_loadAccess]

/-- An attempt follows the earlier ones if the mark says whether one of them succeeded. -/
theorem follows_attempt (hs : 1 ≤ s.maxParallelReconciles) {earlier : List Startup} {loaded : Bool}
    (hl : loaded = false ↔ ∀ b ∈ earlier, b.fault ≠ none) (replies : LoaderReplies) :
    Follows s earlier replies (attempt s replies loaded) := by
  obtain ⟨hloading, hfault, hposting, hworkers⟩ := attempt_of_worker hs replies loaded
  have hcalls := calls_attempt_eq_nil_iff hs replies loaded
  refine ⟨?_, fun h => ?_, ?_, hposting, hworkers⟩
  · rw [← hl, Ne, hcalls, Bool.not_eq_true]
  · have hunloaded : loaded = false := by rwa [Ne, hcalls, Bool.not_eq_true] at h
    rw [hloading, hunloaded, calls_loadAccess]
    rfl
  · rw [hfault, hloading, failure_loadAccess]

/-- After an attempt the mark says so of that one as well. -/
theorem isLoaded_eq_false_iff (hs : 1 ≤ s.maxParallelReconciles) {earlier : List Startup}
    {loaded : Bool} (hl : loaded = false ↔ ∀ b ∈ earlier, b.fault ≠ none)
    (replies : LoaderReplies) :
    (attempt s replies loaded).isLoaded loaded = false ↔
      ∀ b ∈ earlier ++ [attempt s replies loaded], b.fault ≠ none := by
  obtain ⟨hloading, hfault, -, -⟩ := attempt_of_worker hs replies loaded
  have hcalls := calls_attempt_eq_nil_iff hs replies loaded
  rw [List.forall_mem_append, ← hl, List.forall_mem_singleton, hfault, isLoaded, ← hloading]
  cases loaded with
  | true => simp
  | false =>
    cases hc : (attempt s replies false).loading.calls with
    | nil => exact absurd (hcalls.1 hc) (by decide)
    | cons call rest => cases (attempt s replies false).loading.failure <;> simp

end Attempt

/-! ## Attempts one after the other -/

section Attempts

variable {s : Settings}

theorem length_attempts (replies : List LoaderReplies) (loaded : Bool) :
    (attempts s loaded replies).length = replies.length := by
  induction replies generalizing loaded with
  | nil => rfl
  | cons r rest ih => rw [attempts, List.length_cons, ih, List.length_cons]

/-- Induction on the attempts; the earlier ones grow by one with each of them. -/
theorem follows_attempts (hs : 1 ≤ s.maxParallelReconciles) {replies : List LoaderReplies} :
    ∀ {earlier : List Startup} {loaded : Bool},
      (loaded = false ↔ ∀ b ∈ earlier, b.fault ≠ none) →
      ∀ (i : Nat) (r : LoaderReplies) (a : Startup), replies[i]? = some r →
        (attempts s loaded replies)[i]? = some a →
        Follows s (earlier ++ (attempts s loaded replies).take i) r a := by
  induction replies with
  | nil =>
    intro earlier loaded hl i r a hr
    cases hr
  | cons first rest ih =>
    intro earlier loaded hl i r a hr ha
    rw [attempts] at ha ⊢
    cases i with
    | zero =>
      obtain rfl := Option.some.inj hr
      obtain rfl := Option.some.inj ha
      rw [List.take_zero, List.append_nil]
      exact follows_attempt hs hl first
    | succ i =>
      rw [List.take_succ_cons, List.append_cons]
      exact ih (isLoaded_eq_false_iff hs hl first) i r a hr ha

/-- Once the access is loaded, attempts call no loader and do not fail. -/
theorem quiet_of_loaded (hs : 1 ≤ s.maxParallelReconciles) (replies : List LoaderReplies) :
    ∀ a ∈ attempts s true replies, a.loading.calls = [] ∧ a.fault = none := by
  induction replies with
  | nil => simp [attempts]
  | cons first rest ih =>
    intro a ha
    have hnext : (attempt s first true).isLoaded true = true := rfl
    rw [attempts, hnext] at ha
    obtain rfl | ha := List.mem_cons.1 ha
    · obtain ⟨hloading, hfault, -, -⟩ := attempt_of_worker hs first true
      rw [hloading, hfault, loadAccess_of_loaded]
      exact ⟨rfl, rfl⟩
    · exact ih a ha

/-- The first attempt that does not fail loads the access, and after it all is quiet. -/
theorem attempts_split (hs : 1 ≤ s.maxParallelReconciles) (replies : List LoaderReplies) :
    ∃ failed fine, attempts s false replies = failed ++ fine ∧ (∀ a ∈ failed, a.fault ≠ none) ∧
      (∀ a ∈ fine, a.fault = none) ∧ ∀ a ∈ fine.tail, a.loading.calls = [] := by
  induction replies with
  | nil => exact ⟨[], [], rfl, by simp⟩
  | cons first rest ih =>
    obtain ⟨hloading, hfault, -, -⟩ := attempt_of_worker hs first false
    rw [attempts, isLoaded, Bool.false_or]
    cases hf : (attempt s first false).loading.failure with
    | some why =>
      obtain ⟨failed, fine, hrun, hfailed, hfine, hquiet⟩ := ih
      have hfails : (attempt s first false).fault ≠ none := by
        rw [hfault, ← hloading, hf]
        simp
      refine ⟨attempt s first false :: failed, fine, ?_, ?_, hfine, hquiet⟩
      · rw [Option.isNone_some, Bool.and_false, hrun]
        rfl
      · exact List.forall_mem_cons.2 ⟨hfails, hfailed⟩
    | none =>
      have hloaded : (!(attempt s first false).loading.calls.isEmpty && (none : Option String).isNone) =
          true := by
        rw [hloading, calls_loadAccess]
        rfl
      rw [hloaded]
      have hquiet := quiet_of_loaded hs rest
      refine ⟨[], _ :: attempts s true rest, rfl, by simp, ?_, fun a ha => (hquiet a ha).1⟩
      refine List.forall_mem_cons.2 ⟨?_, fun a ha => (hquiet a ha).2⟩
      rw [hfault, ← hloading, hf]
      rfl

theorem loadsOnce_attempts (hs : 1 ≤ s.maxParallelReconciles) (replies : List LoaderReplies) :
    LoadsOnce s replies (attempts s false replies) := by
  obtain ⟨failed, fine, hrun, hfailed, hfine, hquiet⟩ := attempts_split hs replies
  have hstart : false = false ↔ ∀ b ∈ ([] : List Startup), b.fault ≠ none := by simp
  refine ⟨length_attempts replies false, fun i r a hr ha => ?_, ⟨failed, fine, hrun, hfailed, hfine⟩,
    ?_⟩
  · exact follows_attempts hs hstart i r a hr ha
  · have hnone : failed.filter (fun a => !a.loading.calls.isEmpty && a.fault.isNone) = [] := by
      refine List.filter_eq_nil_iff.2 fun a ha => ?_
      simp [hfailed a ha]
    rw [hrun, List.filter_append, hnone, List.nil_append]
    -- of the attempts that do not fail only the first one calls a loader
    cases fine with
    | nil => exact Nat.zero_le 1
    | cons first rest =>
      have hrest : rest.filter (fun a => !a.loading.calls.isEmpty && a.fault.isNone) = [] := by
        refine List.filter_eq_nil_iff.2 fun a ha => ?_
        simp [hquiet a ha]
      rw [List.filter_cons, hrest]
      split
      · exact Nat.le_refl 1
      · exact Nat.zero_le 1

theorem mem_attempts_of_no_worker (hs : s.maxParallelReconciles < 1) {replies : List LoaderReplies} :
    ∀ {loaded : Bool}, ∀ a ∈ attempts s loaded replies,
      a = { posting := s.postingEnabled, fault := some .tooFewWorkers } := by
  induction replies with
  | nil => simp [attempts]
  | cons first rest ih =>
    intro loaded a ha
    rw [attempts, attempt_of_no_worker hs] at ha
    exact (List.mem_cons.1 ha).elim id (ih a)

end Attempts

/-- An operator with a worker loads its access once, however many attempts that takes. The framework
refuses to do without a worker, so one that is to have none gets no further than that, and fails at
each attempt. -/
theorem attempts_load_once (s : Settings) (replies : List LoaderReplies) :
    (1 ≤ s.maxParallelReconciles → LoadsOnce s replies (attempts s false replies)) ∧
    (s.maxParallelReconciles < 1 →
      (attempts s false replies).length = replies.length ∧
      ∀ a ∈ attempts s false replies, a.fault = some .tooFewWorkers ∧ a.loading.calls = [] ∧
        a.posting = s.postingEnabled ∧ a.maxWorkers = none) := by
  refine ⟨fun hs => loadsOnce_attempts hs replies, fun hs => ⟨length_attempts replies false, ?_⟩⟩
  intro a ha
  rw [mem_attempts_of_no_worker hs a ha]
  exact ⟨rfl, rfl, rfl, rfl⟩

/-- A file that is there at the second attempt only: after that nothing more is loaded. -/
theorem attempts_until_file :
    (attempts {} false [⟨some "no pod", some "no file"⟩, ⟨some "no pod", none⟩, {}]).map
      (fun a => (a.loading.calls, a.fault)) =
        [([.inCluster, .kubeconfig none],
            some (.giveUp "Cannot load Kubernetes configuration: no file")),
          ([.inCluster, .kubeconfig none], none), ([], none)] ∧
    LoadsOnce {} [⟨some "no pod", some "no file"⟩, ⟨some "no pod", none⟩, {}]
      (attempts {} false [⟨some "no pod", some "no file"⟩, ⟨some "no pod", none⟩, {}]) ∧
    ∀ a ∈ attempts { maxParallelReconciles := 0 } false [{}], a.maxWorkers = none :=
  ⟨rfl, (attempts_load_once {} _).1 (by decide), fun a ha =>
    (((attempts_load_once { maxParallelReconciles := 0 } [{}]).2 (by decide)).2 a ha).2.2.2⟩

/-- Without a worker no loader is called, though no earlier attempt succeeded, and the number of
workers is not set. -/
theorem not_loadsOnce_of_no_worker :
    ¬ LoadsOnce { maxParallelReconciles := 0 } [{}]
      (attempts { maxParallelReconciles := 0 } false [{}]) := by
  intro h
  have hfirst := h.follows 0 {} _ rfl rfl
  exact hfirst.calls_iff.2 (by simp) rfl

end Startup
end MoodleTenancy
