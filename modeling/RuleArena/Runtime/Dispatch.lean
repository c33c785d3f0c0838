import RuleArena.Runtime.Log

/-!
# Dispatching runs

A request to create a run names a confirmed rule version and carries a job key.
The endpoint looks the rule version of the request up, asks the store for the
run of the job key, and hands the enqueuer the run with the rules of the
request. A job key that is known gives back the run it was used for, whose own
rule version may be another one.

Every job runs under the rules of its run exactly if every request that repeats
a job key names a rule version with the rules of the first one
(`own_rules_iff`).
-/

namespace RuleArena

variable {Spec : Type}

/-! ## Rule versions -/

structure RuleVersion (Spec : Type) where
  versionId : String
  policyId : String
  version : Nat
  templateId : String
  ruleSpec : Spec
  contentHash : String

structure RuleVersionStore (Spec : Type) where
  versions : List (RuleVersion Spec) := []
  byContent : String × String → Option String := fun _ => none

namespace RuleVersionStore

variable (store : RuleVersionStore Spec)

/-- `get` -/
def get (versionId : String) : Option (RuleVersion Spec) :=
  store.versions.find? fun version => version.versionId = versionId

/-- `confirm`, of a policy that is compiled: the same content is confirmed once. -/
def confirm (digest : String → Spec → String) (uuid policyId templateId : String)
    (ruleSpec : Spec) : RuleVersionStore Spec :=
  let contentHash := digest templateId ruleSpec
  match store.byContent (policyId, contentHash) with
  | some _ => store
  | none =>
    let version := 1 + store.versions.countP fun item => item.policyId = policyId
    { versions := store.versions ++
        [{ versionId := uuid, policyId, version, templateId, ruleSpec, contentHash }]
      byContent := insertEntry store.byContent (policyId, contentHash) uuid }

/-- A version is never changed. -/
theorem get_confirm {digest : String → Spec → String} {uuid policyId templateId versionId : String}
    {ruleSpec : Spec} {version : RuleVersion Spec} (h : store.get versionId = some version) :
    (store.confirm digest uuid policyId templateId ruleSpec).get versionId = some version := by
  unfold confirm
  dsimp only
  split
  · exact h
  · rw [get, List.find?_append, Option.or_eq_some_iff]
    exact .inl h

end RuleVersionStore

/-! ## The endpoint -/

/-- `PUBLIC_RUN_BUDGET_CAP` -/
def publicRunBudgetCap : Budget where
  maxSteps := 12
  maxTokens := 100000
  maxCost := 3 / 2
  maxTimeSeconds := 90
  steps_pos := by decide
  time_pos := by norm_num

structure ControlApi.CreateRunRequest where
  ruleVersionId : String
  scenarioVersionId : String
  sandboxVersion : String := "fixed"
  oracleVersion : String := "1.0"
  budget : Budget
  randomSeed : Int := 0
  deriving DecidableEq

/-- `budget_within_public_cap` -/
def ControlApi.CreateRunRequest.WithinPublicCap (payload : ControlApi.CreateRunRequest) : Prop :=
  payload.budget.maxSteps ≤ publicRunBudgetCap.maxSteps ∧
    payload.budget.maxTokens ≤ publicRunBudgetCap.maxTokens ∧
    payload.budget.maxCost ≤ publicRunBudgetCap.maxCost ∧
    payload.budget.maxTimeSeconds ≤ publicRunBudgetCap.maxTimeSeconds

instance (payload : ControlApi.CreateRunRequest) : Decidable payload.WithinPublicCap :=
  inferInstanceAs (Decidable (_ ∧ _))

/-- How `enqueue` ends: it raises, or the queue has kept a job of the run, or it takes this one. -/
inductive Enqueued
  | raised
  | duplicate
  | accepted
  deriving DecidableEq

/-- The control service: the rule versions, the runs, the jobs that were handed to the
    enqueuer, and those that it has put in the queue. -/
structure ControlApi (Spec : Type) where
  versions : RuleVersionStore Spec := {}
  store : InMemoryRuntimeStore := {}
  handed : List (String × Spec) := []
  queue : List (String × Spec) := []

namespace ControlApi

/-- `enqueue`: a job of a run that the queue keeps is not taken again. -/
def enqueue (api : ControlApi Spec) (job : String × Spec) (enqueued : Enqueued) :
    ControlApi Spec :=
  { api with
    handed := api.handed ++ [job]
    queue := if enqueued = .accepted then api.queue ++ [job] else api.queue }

/-- `create_run`, with the status code of its answer. -/
def createRun (api : ControlApi Spec) (uuid idempotencyKey : String) (payload : ControlApi.CreateRunRequest)
    (enqueued : Enqueued) : ControlApi Spec × Nat :=
  if ¬ payload.WithinPublicCap then (api, 422) else
  match api.versions.get payload.ruleVersionId with
  | none => (api, 409)
  | some ruleVersion =>
    match api.store.createRun uuid { payload with jobKey := idempotencyKey } with
    | .error _ => (api, 500)
    | .ok (store, run) =>
      (enqueue { api with store } (run.runId, ruleVersion.ruleSpec) enqueued,
        if enqueued = .raised then 500 else 201)

end ControlApi

/-- What happens next: a policy is confirmed, a run is requested, or the worker or a client
    uses the store. -/
inductive ApiMove (Spec : Type)
  | confirm (uuid policyId templateId : String) (ruleSpec : Spec)
  | createRun (uuid idempotencyKey : String) (payload : ControlApi.CreateRunRequest) (enqueued : Enqueued)
  | operation (op : StoreOp)

namespace ControlApi

variable (digest : String → Spec → String)

def step (api : ControlApi Spec) : ApiMove Spec → ControlApi Spec
  | .confirm uuid policyId templateId ruleSpec =>
    { api with versions := api.versions.confirm digest uuid policyId templateId ruleSpec }
  | .createRun uuid idempotencyKey payload enqueued =>
    (api.createRun uuid idempotencyKey payload enqueued).1
  | .operation op => { api with store := api.store.apply op }

/-- The service after a sequence of moves. -/
def after (api : ControlApi Spec) (moves : List (ApiMove Spec)) : ControlApi Spec :=
  moves.foldl (step digest) api

/-- A job is that of a run, with the rules of the rule version which that run names. -/
def Own (api : ControlApi Spec) (job : String × Spec) : Prop :=
  ∃ run ∈ api.store.runs job.1, ∃ version ∈ api.versions.get run.ruleVersionId,
    version.ruleSpec = job.2

/-- Every job that was handed to the enqueuer has the rules of its run. -/
def OwnRules (api : ControlApi Spec) : Prop := ∀ job ∈ api.handed, api.Own job

instance [DecidableEq Spec] (api : ControlApi Spec) : Decidable api.OwnRules :=
  inferInstanceAs (Decidable (∀ job ∈ api.handed, ∃ run ∈ api.store.runs job.1,
    ∃ version ∈ api.versions.get run.ruleVersionId, version.ruleSpec = job.2))

end ControlApi

/-- Whether an operation asks for a run. -/
def StoreOp.MakesRun : StoreOp → Prop
  | .createRun .. => True
  | _ => False

instance (op : StoreOp) : Decidable op.MakesRun :=
  match op with
  | .createRun .. => .isTrue trivial
  | .compareAndSetStatus .. | .ensureStrategy .. | .updateStrategy .. | .saveCheckpoint ..
  | .appendEvent .. | .saveCounterexample .. => .isFalse id

namespace ApiMove

/-- The identifiers of new records are new, and runs are made by the endpoint. -/
def Fresh (api : ControlApi Spec) : ApiMove Spec → Prop
  | confirm uuid .. => (api.versions.get uuid).isNone
  | createRun uuid .. => api.store.runs uuid = none ∧ api.store.events uuid = none
  | operation op => op.Fresh api.store ∧ ¬ op.MakesRun

instance (api : ControlApi Spec) (move : ApiMove Spec) : Decidable (move.Fresh api) := by
  cases move <;> unfold Fresh <;> infer_instance

/-- A request that repeats the job key of a run names a rule version with the rules of the one
    which that run names. -/
def Agrees (api : ControlApi Spec) : ApiMove Spec → Prop
  | createRun _ idempotencyKey payload _ => payload.WithinPublicCap →
    ∀ version ∈ api.versions.get payload.ruleVersionId,
    ∀ runId ∈ api.store.jobs idempotencyKey, ∀ run ∈ api.store.runs runId,
    ∃ stored ∈ api.versions.get run.ruleVersionId, stored.ruleSpec = version.ruleSpec
  | _ => True

instance [DecidableEq Spec] (api : ControlApi Spec) (move : ApiMove Spec) :
    Decidable (move.Agrees api) := by
  cases move <;> unfold Agrees <;> infer_instance

end ApiMove

/-! ## Runs and their rule versions -/

namespace InMemoryRuntimeStore

variable {store : InMemoryRuntimeStore}

/-- An operation that makes no run keeps the job keys, and changes runs in their status only. -/
theorem runs_apply {op : StoreOp} (h : ¬ op.MakesRun) :
    (store.apply op).jobs = store.jobs ∧ ((store.apply op).runs = store.runs ∨
      ∃ runId run status outcome, store.runs runId = some run ∧
        (store.apply op).runs = insertEntry store.runs runId { run with status, outcome }) := by
  let Runs (store' : InMemoryRuntimeStore) : Prop := store'.jobs = store.jobs ∧
    (store'.runs = store.runs ∨ ∃ runId run status outcome, store.runs runId = some run ∧
      store'.runs = insertEntry store.runs runId { run with status, outcome })
  have same : Runs store := ⟨rfl, .inl rfl⟩
  cases op with
  | createRun uuid request => exact absurd trivial h
  | compareAndSetStatus runId expected target outcome =>
    refine orSame_of (P := Runs) same fun store' changed h => ?_
    simp only [compareAndSetStatus, Checked.bind_eq_ok, entry_eq_ok] at h
    obtain ⟨-, -, -, -, run, found, h⟩ := h
    split_ifs at h
    · obtain ⟨rfl, -⟩ := Prod.mk.inj (Checked.pure_eq_ok.1 h)
      exact ⟨rfl, .inr ⟨runId, run, target, outcome, found, rfl⟩⟩
    · obtain ⟨rfl, -⟩ := Prod.mk.inj (Checked.pure_eq_ok.1 h)
      exact same
  | ensureStrategy uuid attackRunId strategyType budget =>
    refine orSame_of (P := Runs) same fun store' strategy h => ?_
    unfold ensureStrategy at h
    split at h
    · simp only [Checked.bind_eq_ok, Checked.pure_eq_ok, Prod.mk.injEq] at h
      obtain ⟨-, -, rfl, -⟩ := h
      exact same
    · obtain ⟨rfl, -⟩ := Prod.mk.inj (Checked.pure_eq_ok.1 h)
      exact same
  | updateStrategy strategy =>
    refine orSame_of (P := Runs) same fun store' _ h => ?_
    simp only [updateStrategy, Checked.bind_eq_ok, Checked.pure_eq_ok, Prod.mk.injEq] at h
    obtain ⟨-, -, rfl, -⟩ := h
    exact same
  | saveCheckpoint strategyRunId state expectedVersion =>
    refine orSame_of (P := Runs) same fun store' _ h => ?_
    simp only [saveCheckpoint, Checked.bind_eq_ok, Checked.pure_eq_ok, Prod.mk.injEq] at h
    obtain ⟨-, -, rfl, -⟩ := h
    exact same
  | appendEvent => exact same
  | saveCounterexample record =>
    unfold apply saveCounterexample
    dsimp only
    split <;> exact same

end InMemoryRuntimeStore

namespace ControlApi

variable {api : ControlApi Spec} {digest : String → Spec → String}

/-- What the job keys, the runs and the jobs name is there. -/
structure Bound (api : ControlApi Spec) : Prop where
  jobs : ∀ key, ∀ runId ∈ api.store.jobs key, ∃ run ∈ api.store.runs runId, run.runId = runId
  versions : ∀ runId, ∀ run ∈ api.store.runs runId,
    ∃ version, api.versions.get run.ruleVersionId = some version
  handed : ∀ job ∈ api.handed, (api.store.runs job.1).isSome

/-- Runs keep their rule versions, and the rule versions their rules. -/
structure Keeps (api api' : ControlApi Spec) : Prop where
  runs : ∀ runId, ∀ run ∈ api.store.runs runId, ∃ run' ∈ api'.store.runs runId,
    run'.runId = run.runId ∧ run'.ruleVersionId = run.ruleVersionId
  versions : ∀ versionId, ∀ version ∈ api.versions.get versionId,
    version ∈ api'.versions.get versionId

/-- Whether a job has the rules of its run is settled when it is handed over. -/
theorem Keeps.own_iff {api' : ControlApi Spec} (keeps : Keeps api api') (bound : api.Bound)
    {job : String × Spec} (h : (api.store.runs job.1).isSome) : api'.Own job ↔ api.Own job := by
  obtain ⟨run, hr⟩ := Option.isSome_iff_exists.1 h
  obtain ⟨version, hv⟩ := bound.versions job.1 run hr
  obtain ⟨run', hr', -, same⟩ := keeps.runs job.1 run hr
  have hv' := keeps.versions _ version hv
  rw [← same] at hv'
  constructor
  · rintro ⟨run₂, hr₂, version₂, hv₂, rules⟩
    cases hr'.symm.trans hr₂
    cases hv'.symm.trans hv₂
    exact ⟨run, hr, version, hv, rules⟩
  · rintro ⟨run₂, hr₂, version₂, hv₂, rules⟩
    cases hr.symm.trans hr₂
    cases hv.symm.trans hv₂
    exact ⟨run', hr', version, hv', rules⟩

/-- A confirmation and an operation of the store hand nothing over. -/
theorem Bound.of_keeps {api' : ControlApi Spec} (bound : api.Bound) (keeps : Keeps api api')
    (jobs : api'.store.jobs = api.store.jobs) (handed : api'.handed = api.handed)
    (runs : ∀ runId, ∀ run' ∈ api'.store.runs runId, ∃ run ∈ api.store.runs runId,
      run'.ruleVersionId = run.ruleVersionId) :
    api'.Bound ∧ (api'.OwnRules ↔ api.OwnRules) := by
  refine ⟨⟨fun key runId known => ?_, fun runId run' hr' => ?_, fun job h => ?_⟩, ?_⟩
  · rw [jobs] at known
    obtain ⟨run, hr, named⟩ := bound.jobs key runId known
    obtain ⟨run', hr', same, -⟩ := keeps.runs runId run hr
    exact ⟨run', hr', same.trans named⟩
  · obtain ⟨run, hr, same⟩ := runs runId run' hr'
    obtain ⟨version, hv⟩ := bound.versions runId run hr
    exact ⟨version, same ▸ keeps.versions _ version hv⟩
  · rw [handed] at h
    obtain ⟨run, hr⟩ := Option.isSome_iff_exists.1 (bound.handed job h)
    obtain ⟨run', hr', -⟩ := keeps.runs job.1 run hr
    exact Option.isSome_iff_exists.2 ⟨run', hr'⟩
  · rw [OwnRules, OwnRules, handed]
    exact forall₂_congr fun job h => keeps.own_iff bound (bound.handed job h)

theorem Bound.operation (bound : api.Bound) {op : StoreOp}
    (h : ¬ op.MakesRun) {api' : ControlApi Spec}
    (step : api' = { api with store := api.store.apply op }) :
    api'.Bound ∧ (api'.OwnRules ↔ api.OwnRules) := by
  subst step
  obtain ⟨jobs, runs | ⟨runId', run', status, outcome, found, runs⟩⟩ :=
    InMemoryRuntimeStore.runs_apply h
  · refine bound.of_keeps ⟨fun runId run hr => ⟨run, ?_, rfl, rfl⟩, fun _ _ hv => hv⟩ jobs rfl
      fun runId run hr => ⟨run, ?_, rfl⟩
    · rwa [runs]
    · rwa [runs] at hr
  · -- The run whose status has changed names the rule version that it named before.
    refine bound.of_keeps ⟨fun runId run hr => ?_, fun _ _ hv => hv⟩ jobs rfl fun runId run hr => ?_
    · rw [runs]
      by_cases same : runId = runId'
      · subst same
        cases found.symm.trans hr
        exact ⟨_, InMemoryRuntimeStore.insertEntry_self .., rfl, rfl⟩
      · exact ⟨run, (InMemoryRuntimeStore.insertEntry_of_ne same _).trans hr, rfl, rfl⟩
    · rw [runs] at hr
      by_cases same : runId = runId'
      · subst same
        rw [InMemoryRuntimeStore.insertEntry_self, Option.mem_some_iff] at hr
        subst hr
        exact ⟨run', found, rfl⟩
      · rw [InMemoryRuntimeStore.insertEntry_of_ne same] at hr
        exact ⟨run, hr, rfl⟩

/-- A job that is handed over joins the others. -/
theorem Bound.enqueue (bound : api.Bound) (job : String × Spec) (enqueued : Enqueued)
    (h : (api.store.runs job.1).isSome) :
    (api.enqueue job enqueued).Bound ∧
      ((api.enqueue job enqueued).OwnRules ↔ api.OwnRules ∧ api.Own job) := by
  refine ⟨⟨bound.jobs, bound.versions, fun job' h' => ?_⟩, ?_⟩
  · rcases List.mem_append.1 h' with h' | h'
    · exact bound.handed job' h'
    · rw [List.mem_singleton.1 h']
      exact h
  · unfold OwnRules
    change (∀ job' ∈ api.handed ++ [job], api.Own job') ↔ _
    rw [List.forall_mem_append, List.forall_mem_singleton]

/-- A request with a known job key hands over the run of that key, with the rules of the
    request. -/
theorem Bound.createRun_known (bound : api.Bound) {runId uuid idempotencyKey : String}
    {payload : ControlApi.CreateRunRequest} {enqueued : Enqueued} {version : RuleVersion Spec}
    (capped : payload.WithinPublicCap)
    (named : api.versions.get payload.ruleVersionId = some version)
    (known : api.store.jobs idempotencyKey = some runId) :
    (api.createRun uuid idempotencyKey payload enqueued).1.Bound ∧
      ((api.createRun uuid idempotencyKey payload enqueued).1.OwnRules ↔ api.OwnRules ∧
        api.Own (runId, version.ruleSpec)) := by
  obtain ⟨run, hr, rfl⟩ := bound.jobs idempotencyKey runId known
  rw [ControlApi.createRun, if_neg (not_not.2 capped), named]
  simp only [InMemoryRuntimeStore.createRun, known, InMemoryRuntimeStore.entry_eq_ok.2 hr,
    Checked.ok_bind]
  exact bound.enqueue _ enqueued (Option.isSome_iff_exists.2 ⟨run, hr⟩)

/-- A request with a new job key makes a run that names its rule version. -/
theorem Bound.createRun_unknown (bound : api.Bound) {uuid idempotencyKey : String}
    {payload : ControlApi.CreateRunRequest} {enqueued : Enqueued} {version : RuleVersion Spec}
    (fresh : api.store.runs uuid = none) (capped : payload.WithinPublicCap)
    (named : api.versions.get payload.ruleVersionId = some version)
    (unknown : api.store.jobs idempotencyKey = none) :
    (api.createRun uuid idempotencyKey payload enqueued).1.Bound ∧
      ((api.createRun uuid idempotencyKey payload enqueued).1.OwnRules ↔ api.OwnRules) := by
  rw [ControlApi.createRun, if_neg (not_not.2 capped), named]
  cases h : api.store.createRun uuid { payload with jobKey := idempotencyKey } with
  | error e =>
    rw [InMemoryRuntimeStore.createRun, unknown] at h
    cases h
  | ok result =>
    obtain ⟨store, run⟩ := result
    obtain ⟨_, known, -⟩ | ⟨-, -, hid, hversion, jobs, runs, _⟩ :=
      InMemoryRuntimeStore.createRun_cases h
    · cases unknown.symm.trans known
    · have old (runId : String) (h : runId ≠ uuid) : store.runs runId = api.store.runs runId := by
        rw [runs, InMemoryRuntimeStore.insertEntry_of_ne h]
      have new : store.runs uuid = some run := by
        rw [runs, InMemoryRuntimeStore.insertEntry_self]
      have keeps : Keeps api { api with store } := by
        refine ⟨fun runId run' hr' => ⟨run', ?_, rfl, rfl⟩, fun _ _ hv => hv⟩
        refine (old runId ?_).trans hr'
        rintro rfl
        cases fresh.symm.trans hr'
      have bound' : Bound { api with store } := by
        refine ⟨fun key runId known => ?_, fun runId run' hr' => ?_, fun job h => ?_⟩
        · rw [jobs] at known
          by_cases hk : key = idempotencyKey
          · subst hk
            rw [InMemoryRuntimeStore.insertEntry_self, Option.mem_some_iff] at known
            subst known
            exact ⟨run, new, hid⟩
          · rw [InMemoryRuntimeStore.insertEntry_of_ne hk] at known
            obtain ⟨run', hr', same⟩ := bound.jobs key runId known
            obtain ⟨run'', hr'', same', -⟩ := keeps.runs runId run' hr'
            exact ⟨run'', hr'', same'.trans same⟩
        · by_cases hr : runId = uuid
          · subst hr
            cases new.symm.trans hr'
            exact ⟨version, hversion ▸ named⟩
          · exact bound.versions runId run' ((old runId hr).symm.trans hr')
        · obtain ⟨run', hr'⟩ := Option.isSome_iff_exists.1 (bound.handed job h)
          obtain ⟨run'', hr'', -⟩ := keeps.runs job.1 run' hr'
          exact Option.isSome_iff_exists.2 ⟨run'', hr''⟩
      -- The new job has the rules that its run names.
      have own : Own { api with store } (run.runId, version.ruleSpec) :=
        ⟨run, hid ▸ new, version, hversion ▸ named, rfl⟩
      have known : (store.runs run.runId).isSome := by
        rw [hid]
        exact Option.isSome_iff_exists.2 ⟨run, new⟩
      obtain ⟨bound'', iff⟩ := bound'.enqueue (run.runId, version.ruleSpec) enqueued known
      refine ⟨bound'', iff.trans ((and_iff_left own).trans ?_)⟩
      exact forall₂_congr fun job h => keeps.own_iff bound (bound.handed job h)

/-- What one move does: what is named stays there, and a request hands over a job with the
    rules of its run exactly if it agrees with that run. -/
theorem Bound.step (bound : api.Bound) {move : ApiMove Spec} (fresh : move.Fresh api) :
    (api.step digest move).Bound ∧
      ((api.step digest move).OwnRules ↔ api.OwnRules ∧ move.Agrees api) := by
  cases move with
  | confirm uuid policyId templateId ruleSpec =>
    have keeps : Keeps api (api.step digest (.confirm uuid policyId templateId ruleSpec)) :=
      ⟨fun _ run hr => ⟨run, hr, rfl, rfl⟩, fun _ _ hv => RuleVersionStore.get_confirm _ hv⟩
    obtain ⟨bound', iff⟩ := bound.of_keeps keeps rfl rfl fun _ run hr => ⟨run, hr, rfl⟩
    exact ⟨bound', iff.trans (and_iff_left trivial).symm⟩
  | operation op =>
    obtain ⟨bound', iff⟩ := bound.operation fresh.2 rfl
    exact ⟨bound', iff.trans (and_iff_left trivial).symm⟩
  | createRun uuid idempotencyKey payload enqueued =>
    by_cases capped : payload.WithinPublicCap
    · cases named : api.versions.get payload.ruleVersionId with
      | none =>
        have step : api.step digest (.createRun uuid idempotencyKey payload enqueued) = api := by
          simp [ControlApi.step, ControlApi.createRun, named, capped]
        rw [step]
        exact ⟨bound, by simp [ApiMove.Agrees, named]⟩
      | some version =>
        cases known : api.store.jobs idempotencyKey with
        | none =>
          obtain ⟨bound', iff⟩ := bound.createRun_unknown fresh.1 capped
            named known
          exact ⟨bound', iff.trans (by simp [ApiMove.Agrees, known])⟩
        | some runId =>
          obtain ⟨bound', iff⟩ := bound.createRun_known
            capped named known
          refine ⟨bound', iff.trans (and_congr_right fun _ => ?_)⟩
          obtain ⟨run, hr, -⟩ := bound.jobs idempotencyKey runId known
          rw [Option.mem_def] at hr
          simp [ApiMove.Agrees, Own, capped, named, known, hr]
    · have step : api.step digest (.createRun uuid idempotencyKey payload enqueued) = api := by
        simp [ControlApi.step, ControlApi.createRun, capped]
      rw [step]
      exact ⟨bound, by simp [ApiMove.Agrees, capped]⟩

/-- All identifiers of new records are new. -/
def AllFresh (digest : String → Spec → String) (api : ControlApi Spec) :
    List (ApiMove Spec) → Prop
  | [] => True
  | move :: moves => move.Fresh api ∧ AllFresh digest (api.step digest move) moves

instance decidableAllFresh (digest : String → Spec → String) :
    ∀ (api : ControlApi Spec) (moves : List (ApiMove Spec)), Decidable (api.AllFresh digest moves)
  | _, [] => isTrue trivial
  | api, move :: moves =>
    have := decidableAllFresh digest (api.step digest move) moves
    inferInstanceAs (Decidable (_ ∧ _))

/-- Every request that repeats a job key agrees with the run of that key. -/
def AllAgree (digest : String → Spec → String) (api : ControlApi Spec) :
    List (ApiMove Spec) → Prop
  | [] => True
  | move :: moves => move.Agrees api ∧ AllAgree digest (api.step digest move) moves

theorem Bound.after (bound : api.Bound) {moves : List (ApiMove Spec)}
    (fresh : api.AllFresh digest moves) :
    (api.after digest moves).OwnRules ↔ api.OwnRules ∧ api.AllAgree digest moves := by
  induction moves generalizing api with
  | nil => exact (and_iff_left trivial).symm
  | cons move moves ih =>
    obtain ⟨bound', iff⟩ := bound.step fresh.1
    calc ((api.step digest move).after digest moves).OwnRules
      _ ↔ (api.step digest move).OwnRules ∧ (api.step digest move).AllAgree digest moves :=
        ih bound' fresh.2
      _ ↔ api.OwnRules ∧ move.Agrees api ∧ (api.step digest move).AllAgree digest moves := by
        rw [iff, and_assoc]

/-- Nothing is named in a new service. -/
theorem bound_new : Bound ({} : ControlApi Spec) where
  jobs _ _ h := by cases h
  versions _ _ h := by cases h
  handed _ h := by cases h

end ControlApi

/-- Every job that a new service hands to the enqueuer has the rules of the rule version that
    is stored with its run, exactly if every request that repeats a job key names a rule
    version with these rules. -/
theorem own_rules_iff (digest : String → Spec → String) (moves : List (ApiMove Spec))
    (fresh : ControlApi.AllFresh digest {} moves) :
    (ControlApi.after digest {} moves).OwnRules ↔ ControlApi.AllAgree digest {} moves := by
  have none_handed : ControlApi.OwnRules ({} : ControlApi Spec) := fun _ h => by cases h
  exact (ControlApi.bound_new.after fresh).trans (and_iff_right none_handed)

/-! ## Two retries -/

namespace ControlApi

/-- Two policies of the promotion template, the second one with a rule for refunds. -/
def confirmations : List (ApiMove RuleSpec) := [
  .confirm "version-1" "policy-1" "promotion" {
    scenarioType := .promotion, rules := [.promotion]
    allowed := by decide, primary := by decide, unique := by decide },
  .confirm "version-2" "policy-2" "promotion" {
    scenarioType := .promotion, rules := [.promotion, .refund]
    allowed := by decide, primary := by decide, unique := by decide }]

/-- A request for a run with the largest budget. -/
def request (uuid ruleVersionId : String) (enqueued : Enqueued) : ApiMove RuleSpec :=
  .createRun uuid "job"
    { ruleVersionId, scenarioVersionId := "promotion", budget := publicRunBudgetCap } enqueued

end ControlApi

/-- The queue was away, and the same request is sent again. -/
theorem own_rules_retry : (ControlApi.after (fun templateId _ => templateId) {}
    (ControlApi.confirmations ++ [ControlApi.request "run" "version-1" .raised,
      ControlApi.request "other" "version-1" .accepted])).OwnRules :=
  (own_rules_iff _ _ (by decide +kernel)).2
    ⟨trivial, trivial, by decide +kernel, by decide +kernel, trivial⟩

/-- The queue was away, and the request that is sent again names another rule version. -/
theorem other_rules_retry : ¬ (ControlApi.after (fun templateId _ => templateId) {}
    (ControlApi.confirmations ++ [ControlApi.request "run" "version-1" .raised,
      ControlApi.request "other" "version-2" .accepted])).OwnRules := by
  decide +kernel

end RuleArena
