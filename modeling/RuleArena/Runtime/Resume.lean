import RuleArena.Runtime.Accounting
import RuleArena.Runtime.Checkpoints
import RuleArena.Runtime.Proposals

/-!
# Taking up a search

A worker that has crashed takes a search up from its checkpoint. It has the state,
the snapshots, the actions and the usage that the search had (`Alike`), but not
what the search remembered beyond them: which of its actions were not applied,
and how often a proposal was rejected. As long as no pass depends on either
(`Unaffected`) both searches go the same way (`Alike.loop`, `resume_agrees`).

A search that had a candidate does not: its candidate is stored and not read
(`not_resume_agrees`).
-/

namespace RuleArena

open Checked

/-! ## Replies -/

/-- Two passes in which the agent gives the same answers, at different times. -/
structure Turn.SameAnswers (turn turn' : Turn) : Prop where
  cancels : turn'.cancels = turn.cancels
  completions : turn'.completions = turn.completions

namespace RecordedLLMAdapter

/-- What the calls of the adapter that nobody has drained have used. -/
def pendingUsage (adapter : RecordedLLMAdapter) : List LLMUsage :=
  adapter.pendingCalls.map LLMCallRecord.usage

theorem pendingUsage_record (adapter : RecordedLLMAdapter) (usage : LLMUsage) :
    (adapter.record usage).pendingUsage = adapter.pendingUsage ++ [usage] :=
  List.map_append

/-- The reply and what the calls use do not depend on the adapter. -/
theorem propose_same {adapter adapter' : RecordedLLMAdapter}
    (pending : adapter'.pendingUsage = adapter.pendingUsage) (completions : List Completion) :
    (adapter'.propose completions).2 = (adapter.propose completions).2 ∧
      (adapter'.propose completions).1.pendingUsage =
        (adapter.propose completions).1.pendingUsage := by
  induction completions generalizing adapter adapter' with
  | nil => exact ⟨rfl, pending⟩
  | cons completion completions ih =>
    have recorded : (adapter'.record completion.usage).pendingUsage =
        (adapter.record completion.usage).pendingUsage := by
      rw [pendingUsage_record, pendingUsage_record, pending]
    cases completion with
    | answer usage proposal =>
      cases proposal with
      | some proposal => exact ⟨rfl, recorded⟩
      | none =>
        rw [propose, propose]
        split_ifs
        · exact ⟨rfl, recorded⟩
        · exact ih recorded
    | transient => exact ih recorded
    | fatal => exact ⟨rfl, recorded⟩

end RecordedLLMAdapter

theorem InMemoryRuntimeStore.isCancelRequested_congr {store store' : InMemoryRuntimeStore}
    (runs : store'.runs = store.runs) (runId : String) :
    store'.isCancelRequested runId = store.isCancelRequested runId := by
  rw [isCancelRequested, isCancelRequested, getRun, getRun, runs]

/-- What a request does to the runs depends on the runs alone. -/
theorem InMemoryRuntimeStore.runs_requestCancel {store store' : InMemoryRuntimeStore}
    (runs : store'.runs = store.runs) (runId : String) :
    (store'.orSame (store'.requestCancel runId)).runs =
      (store.orSame (store.requestCancel runId)).runs := by
  have same (target : AttackStatus) : (store'.orSame
      (do
        let run ← store'.getRun runId
        if run.status ∈ [.ready, .searching, .replaying] then
          store'.compareAndSetStatus runId run.status target none
        else return (store', false))).runs = (store.orSame
      (do
        let run ← store.getRun runId
        if run.status ∈ [.ready, .searching, .replaying] then
          store.compareAndSetStatus runId run.status target none
        else return (store, false))).runs := by
    rw [getRun, getRun, runs]
    cases hr : store.runs runId with
    | none => exact runs
    | some run =>
      dsimp only [entry, pure, Except.pure, ok_bind]
      split_ifs
      · unfold compareAndSetStatus
        rw [runs, hr]
        by_cases allowed : target ∈ run.status.allowedTransitions
        · rw [ensure_of_pos allowed]
          by_cases finished : target.terminal = (none : Option AttackOutcome).isSome
          · rw [ensure_of_pos finished]
            dsimp only [entry, pure, Except.pure, ok_bind]
            rw [if_pos rfl, if_pos rfl]
            rfl
          · rw [ensure_of_neg finished]
            exact runs
        · rw [ensure_of_neg allowed]
          exact runs
      · exact runs
  exact same .cancelRequested

namespace Search

/-! ## Two searches -/

/-- What tells a search from the one that was taken up in its place: what it remembers of the
    actions before and what the other one has instead, how often it was rejected before and why,
    and the seconds that both had used when they began. -/
structure Gap where
  history : List HistoryEntry
  rebuilt : List HistoryEntry
  retries : Nat
  kinds : List RejectionKind
  budget : Budget
  elapsed : ℚ≥0
  elapsedAgain : ℚ≥0

/-- Two searches that differ by the gap alone. -/
structure Alike (gap : Gap) (live again : Search) : Prop where
  spec : again.spec = live.spec
  runId : again.runId = live.runId
  runs : again.store.runs = live.store.runs
  strategyRunId : again.strategy.strategyRunId = live.strategy.strategyRunId
  budget : live.strategy.budget = gap.budget ∧ again.strategy.budget = gap.budget
  known : (live.store.strategies live.strategy.strategyRunId).isSome ∧
    (again.store.strategies again.strategy.strategyRunId).isSome
  versions : (again.store.checkpoints again.strategy.strategyRunId).map Checkpoint.version =
    (live.store.checkpoints live.strategy.strategyRunId).map Checkpoint.version
  pending : again.adapter.pendingUsage = live.adapter.pendingUsage
  state : again.state = live.state
  snapshots : again.snapshots = live.snapshots
  actions : again.actions = live.actions
  rejection : again.rejection = live.rejection
  checkpointVersion : again.checkpointVersion = live.checkpointVersion
  steps : again.usage.steps = live.usage.steps
  spent : again.usage.spent = live.usage.spent
  elapsed : live.priorElapsed = gap.elapsed ∧ again.priorElapsed = gap.elapsedAgain
  illegalRetries : live.illegalRetries = gap.retries + again.illegalRetries
  rejectedKinds : live.rejectedKinds = gap.kinds ++ again.rejectedKinds
  applied : ∀ item ∈ gap.rebuilt, item.status = .applied
  begun : gap.rebuilt = [] ↔ gap.history = []
  history : ∃ recent, live.history = gap.history ++ recent ∧ again.history = gap.rebuilt ++ recent

/-- The searches after a pass are alike, and both have ended in the same way or not at all. -/
def AlikeAfter (gap : Gap) (after after' : Search × Option SearchEnd) : Prop :=
  Alike gap after.1 after'.1 ∧ after'.2 = after.2

variable {gap : Gap} {live again : Search} {turn turn' : Turn}

/-! ## The store -/

theorem persist_of_known {search : Search} {usage : BudgetUsage}
    (known : (search.store.strategies search.strategy.strategyRunId).isSome) :
    search.persist usage = .ok (search.persisted usage) := by
  obtain ⟨strategy, stored⟩ := Option.isSome_iff_exists.1 known
  rw [persist, InMemoryRuntimeStore.updateStrategy]
  dsimp only
  rw [stored]
  rfl

theorem Alike.persist (alike : Alike gap live again) (usage usage' : BudgetUsage) :
    Related (Alike gap) (live.persist usage) (again.persist usage') := by
  rw [persist_of_known alike.known.1, persist_of_known alike.known.2]
  exact .ok { alike with
    known := ⟨congrArg Option.isSome (InMemoryRuntimeStore.insertEntry_self ..),
      congrArg Option.isSome (InMemoryRuntimeStore.insertEntry_self ..)⟩ }

/-- Both searches may save a checkpoint, or neither may. -/
theorem Alike.saveCheckpoint (alike : Alike gap live again) (state state' : CheckpointState)
    (expected : Nat) :
    Related (fun saved saved' => saved'.2.version = saved.2.version ∧
        Alike gap { live with store := saved.1 } { again with store := saved'.1 })
      (WorkerError.ofStore
        (live.store.saveCheckpoint live.strategy.strategyRunId state expected))
      (WorkerError.ofStore
        (again.store.saveCheckpoint again.strategy.strategyRunId state' expected)) := by
  have version : again.store.checkpointVersion again.strategy.strategyRunId =
      live.store.checkpointVersion live.strategy.strategyRunId :=
    congrArg (Option.getD · 0) alike.versions
  rw [InMemoryRuntimeStore.saveCheckpoint_eq, InMemoryRuntimeStore.saveCheckpoint_eq, version]
  split_ifs
  · refine .ok ⟨rfl, { alike with versions := ?_ }⟩
    dsimp only
    rw [InMemoryRuntimeStore.insertEntry_self, InMemoryRuntimeStore.insertEntry_self]
    rfl
  · exact .error _

/-! ## Following a proposal -/

theorem Alike.saveCandidate (alike : Alike gap live again) (invariantId : InvariantId) :
    Related (AlikeAfter gap) (live.saveCandidate invariantId)
      (again.saveCandidate invariantId) := by
  have versions := alike.versions
  unfold Search.saveCandidate
  cases hc : live.store.checkpoints live.strategy.strategyRunId with
  | none =>
    rw [hc] at versions
    rw [Option.map_eq_none_iff.1 versions]
    exact .error _
  | some checkpoint =>
    rw [hc] at versions
    obtain ⟨checkpoint', hc', version⟩ := Option.map_eq_some_iff.1 versions
    rw [hc']
    dsimp only
    rw [version]
    refine (alike.saveCheckpoint _ _ _).bind fun saved saved' both => .ok ⟨both.2, ?_⟩
    dsimp only
    rw [alike.actions]

theorem Alike.stop (alike : Alike gap live again) (proposal : StopProposal) :
    Related (AlikeAfter gap) (live.stop proposal) (again.stop proposal) := by
  unfold Search.stop
  refine (alike.persist _ _).bind fun live again alike => ?_
  cases proposal.candidateInvariant with
  | none => exact .ok ⟨alike, rfl⟩
  | some invariantId =>
    dsimp only
    rw [alike.actions, alike.spec]
    exact .ite (fun _ => alike.saveCandidate _) fun _ => .ok ⟨alike, rfl⟩

/-- A proposal is rejected in both searches. -/
theorem Alike.reject (alike : Alike gap live again) (kind : RejectionKind) (message : String)
    (proposed : ActionName) (patient : gap.retries = 0 ∨ live.illegalRetries < 2) :
    Related (AlikeAfter gap) (live.reject kind message proposed)
      (again.reject kind message proposed) := by
  have both : 2 ≤ again.illegalRetries ↔ 2 ≤ live.illegalRetries := by
    have := alike.illegalRetries
    omega
  have counted : live.rejectedKinds ++ [kind] = gap.kinds ++ (again.rejectedKinds ++ [kind]) := by
    rw [alike.rejectedKinds, List.append_assoc]
  unfold Search.reject
  dsimp only
  rw [if_congr both rfl rfl]
  refine .ite (fun _ => ?_) fun _ => ?_
  · have rejected : Alike gap
        { live with rejectedKinds := live.rejectedKinds ++ [kind] }
        { again with rejectedKinds := again.rejectedKinds ++ [kind] } :=
      { alike with rejectedKinds := counted }
    exact (rejected.persist _ _).bind fun live again alike => .ok ⟨alike, rfl⟩
  · refine .ok ⟨{ alike with rejectedKinds := counted, illegalRetries := ?_, rejection := rfl },
      rfl⟩
    dsimp only
    rw [alike.illegalRetries, add_assoc]

theorem Alike.stepKey (alike : Alike gap live again) : again.stepKey = live.stepKey := by
  rw [Search.stepKey, Search.stepKey, alike.runId, alike.strategyRunId, alike.steps]

/-- What the search took for a repetition before is one still, and a rejection that ends the
    one search ends the other: a proposal that is legal repeats nothing that was not applied
    before the crash, unless it repeats what was not applied since, and if there were
    rejections before, the agent may be rejected once more. -/
structure Unmoved (gap : Gap) (search : Search) (legal : List SimAction)
    (proposal : ActionProposal) : Prop where
  repeats : ∀ action,
    validateActionProposal proposal legal [] search.usage search.strategy.budget = .ok action →
    proposal.Repeats gap.history → proposal.Repeats (search.history.drop gap.history.length)
  patient : ∀ kind message,
    validateActionProposal proposal legal search.history search.usage search.strategy.budget =
      .error (.rejected kind message) → gap.retries = 0 ∨ search.illegalRetries < 2

/-- The proposal is judged in the same way. -/
theorem Alike.validate (alike : Alike gap live again) {legal : List SimAction}
    {proposal : ActionProposal} (unmoved : Unmoved gap live legal proposal) :
    validateActionProposal proposal legal again.history again.usage again.strategy.budget =
      validateActionProposal proposal legal live.history live.usage live.strategy.budget := by
  obtain ⟨recent, history, history'⟩ := alike.history
  have repeats := unmoved.repeats
  rw [validateActionProposal_eq proposal legal again.history _ alike.steps.symm,
    validateActionProposal_eq proposal legal live.history _ rfl, alike.budget.2]
  rw [alike.budget.1] at repeats ⊢
  cases hv : validateActionProposal proposal legal [] live.usage gap.budget with
  | error e => rfl
  | ok action =>
    have same : proposal.Repeats again.history ↔ proposal.Repeats live.history := by
      have known := repeats action hv
      rw [history, List.drop_left] at known
      rw [history, history']
      constructor
      · rintro ⟨item, mem, key, status⟩
        obtain rebuilt | recent := List.mem_append.1 mem
        · exact absurd (alike.applied item rebuilt) status
        · exact ⟨item, List.mem_append_right _ recent, key, status⟩
      · rintro ⟨item, mem, key, status⟩
        obtain before | recent := List.mem_append.1 mem
        · obtain ⟨item, mem, repeated⟩ := known ⟨item, before, key, status⟩
          exact ⟨item, List.mem_append_right _ mem, repeated⟩
        · exact ⟨item, List.mem_append_right _ recent, key, status⟩
    have empty : again.history = [] ↔ live.history = [] := by
      rw [history, history', List.append_eq_nil_iff, List.append_eq_nil_iff, alike.begun]
    by_cases keyed : live.history = [] ∨ proposal.candidate.Writable
    · rw [ok_bind, ok_bind, ensure_of_pos keyed, ensure_of_pos (keyed.imp_left empty.2), ok_bind,
        ok_bind]
      by_cases repeated : proposal.Repeats live.history
      · rw [ensure_of_neg (not_not_intro repeated), ensure_of_neg (not_not_intro (same.2 repeated))]
      · rw [ensure_of_pos repeated, ensure_of_pos (mt same.1 repeated)]
    · rw [ok_bind, ok_bind, ensure_of_neg keyed, ensure_of_neg (mt (Or.imp_left empty.1) keyed)]
      rfl

/-! ## Budgets -/

/-- A usage is within the budget whenever another one is that differs in its time alone. -/
theorem within_congr {usage usage' : BudgetUsage} {budget : Budget}
    (steps : usage'.steps = usage.steps) (spent : usage'.spent = usage.spent)
    (inTime : usage.elapsedSeconds ≤ budget.maxTimeSeconds)
    (inTime' : usage'.elapsedSeconds ≤ budget.maxTimeSeconds) :
    usage'.Within budget ↔ usage.Within budget := by
  obtain ⟨tokens, cost⟩ := Prod.mk.inj spent
  rw [BudgetUsage.Within, BudgetUsage.Within, steps, tokens, cost, iff_true_intro inTime,
    iff_true_intro inTime']

/-- Both searches have time left. -/
def InTime (gap : Gap) (live again : Search) : Prop :=
  live.usage.elapsedSeconds ≤ gap.budget.maxTimeSeconds ∧
    again.usage.elapsedSeconds ≤ gap.budget.maxTimeSeconds

/-- What the pending calls add to the usage of a search, if there are any. -/
theorem nextUsage_eq {search : Search} (pending : search.adapter.pendingUsage ≠ []) :
    search.nextUsage = { search.usage with
      tokens := search.usage.tokens + (search.adapter.pendingUsage.map fun usage =>
        usage.inputTokens + usage.outputTokens).sum
      cost := search.usage.cost + (search.adapter.pendingUsage.map LLMUsage.cost).sum } := by
  have calls : search.adapter.pendingCalls ≠ [] := fun h =>
    pending (congrArg (List.map LLMCallRecord.usage) h)
  unfold nextUsage RecordedLLMAdapter.drainCallRecords RecordedLLMAdapter.pendingUsage
  dsimp only
  rw [if_neg calls, List.map_map, List.map_map]
  rfl

theorem Alike.tick (alike : Alike gap live again) (same : turn.SameAnswers turn') :
    Alike gap (live.tick turn) (again.tick turn') := by
  obtain ⟨runs, events, stored⟩ := live.tick_frame turn
  obtain ⟨runs', events', stored'⟩ := again.tick_frame turn'
  have ran : (again.tick turn').store.runs = (live.tick turn).store.runs := by
    rw [Search.tick, Search.tick, same.cancels, alike.runId]
    dsimp only
    split_ifs
    · exact InMemoryRuntimeStore.runs_requestCancel alike.runs _
    · exact alike.runs
  exact { alike with
    runs := ran
    known := by
      rw [stored, stored']
      exact alike.known
    versions := by
      rw [stored, stored']
      exact alike.versions }

/-- What is used next is the same, but for the time. -/
theorem Alike.nextUsage (alike : Alike gap live again) (asked : live.adapter.pendingUsage ≠ []) :
    again.nextUsage.steps = live.nextUsage.steps ∧
      again.nextUsage.spent = live.nextUsage.spent := by
  obtain ⟨tokens, cost⟩ := Prod.mk.inj alike.spent
  rw [nextUsage_eq asked, nextUsage_eq (by rwa [alike.pending]), BudgetUsage.spent,
    BudgetUsage.spent, alike.pending, tokens, cost]
  exact ⟨alike.steps, rfl⟩

theorem Alike.counted (alike : Alike gap live again) (asked : live.adapter.pendingUsage ≠ []) :
    Alike gap live.counted again.counted :=
  { alike with
    pending := rfl
    rejection := rfl
    steps := (alike.nextUsage asked).1
    spent := (alike.nextUsage asked).2 }

/-! ## A pass -/

/-- The outcome of a search that was taken up is that of the one that was not interrupted: it has
    the same state, snapshots and actions, it has rejected what the other one has rejected since
    the crash, and it has ended in the same way, or not at all. -/
structure Agree (before : List RejectionKind) (live again : Search × Option SearchEnd) :
    Prop where
  state : again.1.state = live.1.state
  snapshots : again.1.snapshots = live.1.snapshots
  actions : again.1.actions = live.1.actions
  rejectedKinds : live.1.rejectedKinds = before ++ again.1.rejectedKinds
  ended : again.2 = live.2

theorem AlikeAfter.agree {after after' : Search × Option SearchEnd}
    (alike : AlikeAfter gap after after') : Agree gap.kinds after after' :=
  ⟨alike.1.state, alike.1.snapshots, alike.1.actions, alike.1.rejectedKinds, alike.2⟩

theorem Alike.exhausted (alike : Alike gap live again) (inTime : InTime gap live again) :
    again.exhausted = live.exhausted := by
  have within := within_congr alike.steps alike.spent inTime.1 inTime.2
  have cancelled : again.store.isCancelRequested again.runId =
      live.store.isCancelRequested live.runId := by
    rw [alike.runId, InMemoryRuntimeStore.isCancelRequested_congr alike.runs]
  unfold Search.exhausted
  rw [alike.budget.1, alike.budget.2, cancelled, alike.steps, alike.spec, alike.state,
    if_congr (not_congr within) rfl rfl, if_neg (not_lt.2 inTime.1), if_neg (not_lt.2 inTime.2)]

variable [Python]

/-- The same action is done in both searches. -/
theorem Alike.stepped (alike : Alike gap live again) (action : SimAction)
    (transition : TransitionResult) :
    Alike gap (live.stepped action transition) (again.stepped action transition) := by
  obtain ⟨recent, history, history'⟩ := alike.history
  exact { alike with
    state := rfl
    snapshots := congrArg (· ++ [transition.state.snapshot]) alike.snapshots
    actions := by rw [Search.stepped, Search.stepped, alike.actions, alike.stepKey]
    steps := congrArg (· + 1) alike.steps
    history := ⟨recent ++ [{ actionKey := action.canonicalKey, status := transition.status }],
      by rw [← List.append_assoc, ← history]; rfl, by rw [← List.append_assoc, ← history']; rfl⟩ }

theorem Alike.accept (alike : Alike gap live again) (action : SimAction) :
    Related (Alike gap) (live.accept action) (again.accept action) := by
  have same : again.spec.simulator.transition again.state
      { action with idempotencyKey := some again.stepKey } =
        live.spec.simulator.transition live.state
          { action with idempotencyKey := some live.stepKey } := by
    rw [alike.spec, alike.state, alike.stepKey]
  unfold Search.accept
  dsimp only
  rw [same]
  cases live.spec.simulator.transition live.state
      { action with idempotencyKey := some live.stepKey } with
  | error e => exact .error _
  | ok transition =>
    refine ((alike.stepped action transition).persist _ _).bind fun live again alike => ?_
    rw [alike.checkpointVersion]
    exact (alike.saveCheckpoint _ _ _).bind fun saved saved' both =>
      .ok { both.2 with checkpointVersion := both.1 }

theorem Alike.judge (alike : Alike gap live again) :
    Related (AlikeAfter gap) live.judge again.judge := by
  have same : again.violated = live.violated := by
    rw [violated, violated, alike.spec, alike.snapshots]
  unfold Search.judge
  rw [same]
  refine .step _ fun invariantId _ => ?_
  cases invariantId with
  | some invariantId => exact alike.saveCandidate invariantId
  | none => exact .ok ⟨alike, rfl⟩

theorem Alike.act (alike : Alike gap live again) {legal : List SimAction}
    {proposal : ActionProposal} (unmoved : Unmoved gap live legal proposal) :
    Related (AlikeAfter gap) (live.act legal proposal) (again.act legal proposal) := by
  unfold Search.act
  rw [alike.validate unmoved]
  split
  · next kind message hv => exact alike.reject kind message _ (unmoved.patient kind message hv)
  · exact .error _
  · next action _ => exact (alike.accept action).bind fun live again alike => alike.judge

theorem Alike.follow (alike : Alike gap live again) (inTime : InTime gap live again)
    {legal : List SimAction} {proposal : Proposal} (asked : live.adapter.pendingUsage ≠ [])
    (unmoved : ∀ action, proposal = .action action → live.nextUsage.Within live.strategy.budget →
      Unmoved gap live.counted legal action) :
    Related (AlikeAfter gap) (live.follow legal proposal) (again.follow legal proposal) := by
  obtain ⟨steps, spent⟩ := alike.nextUsage asked
  have elapsed (search : Search) : search.nextUsage.elapsedSeconds = search.usage.elapsedSeconds :=
    rfl
  have within : again.nextUsage.Within again.strategy.budget ↔
      live.nextUsage.Within live.strategy.budget := by
    rw [alike.budget.1, alike.budget.2]
    exact within_congr steps spent inTime.1 inTime.2
  unfold Search.follow
  rw [if_congr (not_congr within) rfl rfl]
  refine .ite (fun _ => ?_) fun left => ?_
  · have kept : Alike gap { live.counted with usage := live.usage }
        { again.counted with usage := again.usage } :=
      { alike.counted asked with steps := alike.steps, spent := alike.spent }
    exact (kept.persist _ _).bind fun live again alike => .ok ⟨alike, rfl⟩
  · cases proposal with
    | stop proposal => exact (alike.counted asked).stop proposal
    | action proposal =>
      exact (alike.counted asked).act (unmoved proposal rfl (not_not.1 left))

/-- What the passes of a search do not depend on: what the agent proposes in a pass, if it is
    followed, is judged as it would be if the search had forgotten what is in the gap. -/
def Unaffected (gap : Gap) (search : Search) (turn : Turn) : Prop :=
  ∀ proposal, (search.tick turn).exhausted = .ok none →
    ((search.tick turn).adapter.propose (List.ofFn turn.completions)).2 =
      .proposal (.action proposal) →
    ((search.tick turn).asked turn).nextUsage.Within search.strategy.budget →
    Unmoved gap ((search.tick turn).asked turn).counted
      (search.spec.simulator.legalActions search.state) proposal

theorem Alike.ask (alike : Alike gap live again) (inTime : InTime gap live again)
    (same : turn.SameAnswers turn') {legal : List SimAction}
    (unmoved : ∀ proposal, (live.adapter.propose (List.ofFn turn.completions)).2 =
        .proposal (.action proposal) →
      (live.asked turn).nextUsage.Within live.strategy.budget →
      Unmoved gap (live.asked turn).counted legal proposal) :
    Related (AlikeAfter gap) (live.ask legal turn) (again.ask legal turn') := by
  obtain ⟨reply, pending⟩ :=
    RecordedLLMAdapter.propose_same alike.pending (List.ofFn turn.completions)
  have asked : Alike gap (live.asked turn) (again.asked turn') := by
    refine { alike with pending := ?_ }
    rw [Search.asked, Search.asked, same.completions]
    exact pending
  have calls : (live.asked turn).adapter.pendingUsage ≠ [] := by
    obtain ⟨records, made, some⟩ :=
      live.adapter.pendingCalls_propose (List.ofFn turn.completions)
    have some := some (by simp)
    intro h
    rw [RecordedLLMAdapter.pendingUsage, List.map_eq_nil_iff, Search.asked, made,
      List.append_eq_nil_iff] at h
    exact some h.2
  unfold Search.ask
  rw [same.completions, reply]
  split
  · exact .error _
  · next kind _ =>
    refine .ok ⟨{ asked with rejectedKinds := ?_ }, rfl⟩
    dsimp only
    rw [asked.rejectedKinds, List.append_assoc]
  · next proposal hr =>
    refine asked.follow inTime calls fun action he within => unmoved action ?_ within
    rw [hr, he]

theorem Alike.pass (alike : Alike gap live again) (same : turn.SameAnswers turn')
    (inTime : InTime gap (live.tick turn) (again.tick turn'))
    (unaffected : Unaffected gap live turn) :
    Related (AlikeAfter gap) (live.turn turn) (again.turn turn') := by
  have ticked := alike.tick same
  unfold Search.turn
  dsimp only
  rw [ticked.exhausted inTime]
  refine .step _ fun ended ready => ?_
  cases ended with
  | some reason => exact .ok ⟨ticked, rfl⟩
  | none =>
    dsimp only
    rw [ticked.spec, ticked.state]
    exact ticked.ask inTime same fun proposal hr within => unaffected proposal ready hr within

/-! ## A run -/

/-- No pass of a search depends on the gap. -/
def AllUnaffected (gap : Gap) : Search → List Turn → Prop
  | _, [] => True
  | search, turn :: turns => Unaffected gap search turn ∧
    ∀ next, search.turn turn = .ok (next, none) → AllUnaffected gap next turns

/-- The passes begin before the time of the budget is over. -/
def Timely (elapsed : ℚ≥0) (budget : Budget) (turns : List Turn) : Prop :=
  ∀ turn ∈ turns, elapsed + turn.seconds ≤ budget.maxTimeSeconds

theorem Alike.loop (alike : Alike gap live again) {turns turns' : List Turn}
    (same : List.Forall₂ Turn.SameAnswers turns turns')
    (inTime : Timely gap.elapsed gap.budget turns)
    (inTime' : Timely gap.elapsedAgain gap.budget turns')
    (unaffected : AllUnaffected gap live turns) :
    Related (AlikeAfter gap) (live.loop turns) (again.loop turns') := by
  induction same generalizing live again with
  | nil => exact .ok ⟨alike, rfl⟩
  | @cons turn turn' turns turns' same rest ih =>
    obtain ⟨begun, begun'⟩ := alike.elapsed
    have ticking : InTime gap (live.tick turn) (again.tick turn') := by
      refine ⟨?_, ?_⟩
      · change live.priorElapsed + turn.seconds ≤ _
        rw [begun]
        exact inTime turn List.mem_cons_self
      · change again.priorElapsed + turn'.seconds ≤ _
        rw [begun']
        exact inTime' turn' List.mem_cons_self
    have passed := alike.pass same ticking unaffected.1
    unfold Search.loop
    cases ht : live.turn turn with
    | error e =>
      rw [ht] at passed
      cases hu : again.turn turn' with
      | error e' =>
        rw [hu] at passed
        cases passed
        exact .error _
      | ok after' =>
        rw [hu] at passed
        cases passed
    | ok after =>
      rw [ht] at passed
      cases hu : again.turn turn' with
      | error e' =>
        rw [hu] at passed
        cases passed
      | ok after' =>
        rw [hu] at passed
        obtain ⟨live, ended⟩ := after
        obtain ⟨again, ended'⟩ := after'
        obtain ⟨alike⟩ := passed
        obtain ⟨alike, rfl⟩ := alike
        cases ended' with
        | some ended => exact .ok ⟨alike, rfl⟩
        | none =>
          exact ih alike (fun turn mem => inTime turn (List.mem_cons_of_mem _ mem))
            (fun turn mem => inTime' turn (List.mem_cons_of_mem _ mem)) (unaffected.2 live ht)

theorem loop_append {search between : Search} {turns : List Turn}
    (h : search.loop turns = .ok (between, none)) (rest : List Turn) :
    search.loop (turns ++ rest) = between.loop rest := by
  induction turns generalizing search with
  | nil =>
    obtain ⟨rfl, -⟩ := Prod.mk.inj (pure_eq_ok.1 h)
    rfl
  | cons turn turns ih =>
    obtain ⟨⟨next, ended⟩, ht, h⟩ := bind_eq_ok.1 h
    cases ended with
    | some ended => cases h
    | none =>
      rw [List.cons_append, Search.loop, ht]
      exact ih h

/-- What is forgotten in a crash after which a search would have gone on like this. -/
def lost (search : Search) : Gap where
  history := search.history
  rebuilt := search.actions.map fun action =>
    { actionKey := action.canonicalKey, status := .applied }
  retries := search.illegalRetries
  kinds := search.rejectedKinds
  budget := search.strategy.budget
  elapsed := search.priorElapsed
  elapsedAgain := search.strategy.usage.elapsedSeconds

theorem Kept.alike_resumed {search : Search} (kept : search.Kept)
    {adapter : RecordedLLMAdapter} (drained : search.adapter.pendingUsage = [])
    (fresh : adapter.pendingUsage = []) (rejection : search.rejection = none)
    (persisted : search.strategy.usage = search.usage) :
    Alike search.lost search (search.resumed adapter) := by
  have store : (search.resumed adapter).store = { search.store with
      strategies := insertEntry search.store.strategies search.strategy.strategyRunId
        search.strategy } := by
    rw [resumed, InMemoryRuntimeStore.updateStrategy, kept.stored]
    rfl
  exact {
    spec := rfl
    runId := rfl
    runs := by rw [store]
    strategyRunId := rfl
    budget := ⟨rfl, rfl⟩
    known := by
      rw [store, kept.stored]
      exact ⟨rfl, congrArg Option.isSome (InMemoryRuntimeStore.insertEntry_self ..)⟩
    versions := by
      rw [store]
      rfl
    pending := fresh.trans drained.symm
    state := rfl
    snapshots := rfl
    actions := rfl
    rejection := rejection.symm
    checkpointVersion := rfl
    steps := congrArg BudgetUsage.steps persisted
    spent := congrArg BudgetUsage.spent persisted
    elapsed := ⟨rfl, rfl⟩
    illegalRetries := rfl
    rejectedKinds := (List.append_nil _).symm
    begun := by
      rw [← List.length_eq_zero_iff, ← List.length_eq_zero_iff, lost, List.length_map,
        kept.remembered]
    applied := by
      rintro item mem
      obtain ⟨action, -, rfl⟩ := List.mem_map.1 mem
      rfl
    history := ⟨[], (List.append_nil _).symm, (List.append_nil _).symm⟩ }

/-! ## Before the crash -/

/-- What a search that goes on does not change. -/
structure Framed (search search' : Search) : Prop where
  spec : search'.spec = search.spec
  runId : search'.runId = search.runId
  strategyRunId : search'.strategy.strategyRunId = search.strategy.strategyRunId
  budget : search'.strategy.budget = search.strategy.budget
  elapsed : search'.priorElapsed = search.priorElapsed

theorem next_framed {search search' : Search} {turn : Turn}
    (h : search.turn turn = .ok (search', none)) : Framed search search' := by
  obtain ⟨-, proposal, -, -, ⟨kind, message, -, -, rfl⟩ | ⟨action, -, ha, -⟩⟩ := next_cases h
  · exact ⟨rfl, rfl, rfl, rfl, rfl⟩
  · obtain ⟨transition, checkpoint, -, -, rfl⟩ := accept_eq_ok ha
    exact ⟨rfl, rfl, rfl, rfl, rfl⟩

theorem Framed.passes {search between search' : Search} (framed : Framed search between)
    {turns : List Turn} (h : between.loop turns = .ok (search', none)) :
    Framed search search' := by
  induction turns generalizing between with
  | nil =>
    obtain ⟨rfl, -⟩ := Prod.mk.inj (pure_eq_ok.1 h)
    exact framed
  | cons turn turns ih =>
    obtain ⟨⟨next, ended⟩, ht, h⟩ := bind_eq_ok.1 h
    cases ended with
    | some ended => cases h
    | none =>
      have more := next_framed ht
      exact ih ⟨more.spec.trans framed.spec, more.runId.trans framed.runId,
        more.strategyRunId.trans framed.strategyRunId, more.budget.trans framed.budget,
        more.elapsed.trans framed.elapsed⟩ h

theorem started_framed {spec : PolicySpec} {runId : String} {store : InMemoryRuntimeStore}
    {strategy : StrategyRun} {adapter : RecordedLLMAdapter} {search : Search}
    (h : start spec runId store strategy adapter = .ok search) :
    search.spec = spec ∧ search.runId = runId ∧
      search.strategy.strategyRunId = strategy.strategyRunId ∧
      search.strategy.budget = strategy.budget ∧
      search.priorElapsed = strategy.usage.elapsedSeconds := by
  simp only [start, bind_eq_ok, pure_eq_ok] at h
  obtain ⟨-, -, -, -, -, -, rfl⟩ := h
  exact ⟨rfl, rfl, rfl, rfl, rfl⟩

/-- The search that is taken up from a store comes to the outcome, having rejected the same since
    it was taken up. -/
def Resumes (spec : PolicySpec) (runId strategyRunId : String) (crash : InMemoryRuntimeStore)
    (adapter : RecordedLLMAdapter) (turns : List Turn) (before : List RejectionKind)
    (outcome : Except WorkerError (Search × Option SearchEnd)) : Prop :=
  ∃ strategy again, crash.strategies strategyRunId = some strategy ∧
    start spec runId crash strategy adapter = .ok again ∧
    Related (Agree before) outcome (again.loop turns)

end Search

open Search in
/-- A search that is taken up after a crash accepts and rejects what it would have without the
    crash, and ends in the same way, if the pass that saved the checkpoint did not end it and no
    later pass depends on what is lost. -/
theorem resume_agrees [Python] {spec : PolicySpec} {runId : String} {store : InMemoryRuntimeStore}
    {strategy : StrategyRun} {adapter adapter' : RecordedLLMAdapter} {actions : List SimAction}
    {search between search' : Search} {turns rest rest' : List Turn} {turn : Turn}
    {crash : InMemoryRuntimeStore}
    (serialized : store.Serialized strategy.strategyRunId actions)
    (started : start spec runId store strategy adapter = .ok search)
    (passed : search.loop turns = .ok (between, none)) (crashed : crash ∈ between.saved turn)
    (fresh : adapter'.pendingCalls = []) (same : List.Forall₂ Turn.SameAnswers rest rest')
    (inTime : Timely strategy.usage.elapsedSeconds strategy.budget rest)
    (inTime' : ∀ stored, crash.strategies strategy.strategyRunId = some stored →
      Timely stored.usage.elapsedSeconds strategy.budget rest')
    (goesOn : between.turn turn = .ok (search', none))
    (unaffected : AllUnaffected search'.lost search' rest) :
    Resumes spec runId strategy.strategyRunId crash adapter' rest' between.rejectedKinds
      (search.loop (turns ++ turn :: rest)) := by
  obtain ⟨spec_eq, runId_eq, strategy_eq, budget_eq, elapsed_eq⟩ := started_framed started
  have framed : Framed search search' := by
    have begun : Framed search between := Framed.passes ⟨rfl, rfl, rfl, rfl, rfl⟩ passed
    have more := next_framed goesOn
    exact ⟨more.spec.trans begun.spec, more.runId.trans begun.runId,
      more.strategyRunId.trans begun.strategyRunId, more.budget.trans begun.budget,
      more.elapsed.trans begun.elapsed⟩
  have kept : search'.Kept := ((Kept.start serialized started).passes passed).next goesOn
  obtain ⟨rfl, persisted, rejection, kinds, drained⟩ := store_of_saved crashed goesOn
  have stored : search'.store.strategies strategy.strategyRunId = some search'.strategy := by
    rw [← strategy_eq, ← framed.strategyRunId]
    exact kept.stored
  have pending (adapter : RecordedLLMAdapter) (h : adapter.pendingCalls = []) :
      adapter.pendingUsage = [] :=
    congrArg (List.map LLMCallRecord.usage) h
  have alike := kept.alike_resumed (pending _ drained) (pending _ fresh) rejection persisted
  refine ⟨search'.strategy, search'.resumed adapter', stored, ?_, ?_⟩
  · rw [← spec_eq, ← runId_eq, ← framed.spec, ← framed.runId]
    exact kept.start_again adapter'
  · have gone : search.loop (turns ++ turn :: rest) = search'.loop rest := by
      rw [loop_append passed, Search.loop, goesOn]
      rfl
    rw [gone, ← kinds]
    refine (alike.loop same ?_ ?_ unaffected).mono fun after after' alike => alike.agree
    · change Timely search'.priorElapsed search'.strategy.budget rest
      rw [framed.elapsed, framed.budget, elapsed_eq, budget_eq]
      exact inTime
    · change Timely search'.strategy.usage.elapsedSeconds search'.strategy.budget rest'
      rw [framed.budget, budget_eq]
      exact inTime' _ stored

/-! ## A crash after the first action -/

namespace Search

/-- The agent says that the path it has taken violates an invariant. -/
def accusing : Turn := answering (some (.stop { candidateInvariant := some .netPaidNonNegative }))

/-- The agent is asked in a pass: something is left of every budget, nobody cancels, and there is
    an offer. -/
def Answerable (search : Search) (turn : Turn) : Prop :=
  let search := (search.tick turn)
  search.usage.Within search.strategy.budget ∧
  search.usage.steps < search.strategy.budget.maxSteps ∧
  (search.store.isCancelRequested search.runId).toOption = some false ∧
  (∀ user ∈ search.state.users.head?, search.spec.simulator.offers search.state user ≠ []) ∧
  (search.asked turn).counted.usage.Within search.strategy.budget

instance (search : Search) (turn : Turn) : Decidable (search.Answerable turn) := by
  unfold Answerable
  infer_instance

/-- What comes of the accusation, if the agent is asked. -/
def accused (search : Search) : Except WorkerError (Search × Option SearchEnd) :=
  ((search.tick accusing).asked accusing).counted.stop
    { candidateInvariant := some .netPaidNonNegative }

theorem Answerable.ready [Python] {search : Search} {turn : Turn}
    (answerable : search.Answerable turn) : (search.tick turn).exhausted = .ok none := by
  obtain ⟨within, room, going, offered, -⟩ := answerable
  rw [exhausted, if_neg (not_not.2 within), if_neg (not_le.2 room), ok_of_toOption going]
  exact if_neg (ReferenceSimulator.legalActions_ne_nil offered)

theorem Answerable.accused [Python] {search : Search} (answerable : search.Answerable accusing) :
    search.turn accusing = search.accused ∧
      search.saved accusing = candidateStore search.accused := by
  have ready := answerable.ready
  have within := answerable.2.2.2.2
  have reply : ((search.tick accusing).adapter.propose (List.ofFn accusing.completions)).2 =
      .proposal (.stop { candidateInvariant := some .netPaidNonNegative }) := rfl
  constructor
  · rw [Search.turn, ready]
    change (search.tick accusing).ask (search.spec.simulator.legalActions search.state) accusing = _
    rw [ask, reply]
    exact if_neg (not_not.2 within)
  · rw [saved]
    dsimp only
    rw [ready, reply]
    exact if_neg (not_not.2 within)

/-- An agent that stops without a candidate has found nothing. -/
theorem found_of_stop [Python] {search search' : Search} {ended : SearchEnd}
    (h : search.loop [answering (some (.stop {}))] = .ok (search', some ended)) :
    ended.found = none := by
  have reply (search : Search) : (search.adapter.propose
      (List.ofFn (answering (some (.stop {}))).completions)).2 = .proposal (.stop {}) := rfl
  obtain ⟨⟨next, ended'⟩, ht, h⟩ := bind_eq_ok.1 h
  cases ended' with
  | none => cases h
  | some ended' =>
    obtain ⟨rfl, hended⟩ := Prod.mk.inj (pure_eq_ok.1 h)
    cases hended
    obtain ⟨reason, he, ht⟩ := bind_eq_ok.1 ht
    cases reason with
    | some reason =>
      obtain ⟨-, hended⟩ := Prod.mk.inj (pure_eq_ok.1 ht)
      cases hended
      rfl
    | none =>
      dsimp only [ask] at ht
      rw [reply] at ht
      dsimp only [follow] at ht
      split_ifs at ht
      · obtain ⟨_, -, ht⟩ := bind_eq_ok.1 ht
        obtain ⟨-, hended⟩ := Prod.mk.inj (pure_eq_ok.1 ht)
        cases hended
        rfl
      · obtain ⟨_, -, ht⟩ := bind_eq_ok.1 ht
        obtain ⟨-, hended⟩ := Prod.mk.inj (pure_eq_ok.1 ht)
        cases hended
        rfl

/-- Passes in which no time goes by. -/
theorem timely_answering {elapsed : ℚ≥0} (begun : elapsed = 0)
    (proposals : List (Option Proposal)) :
    Timely elapsed newBudget (proposals.map answering) := by
  intro turn mem
  obtain ⟨proposal, -, rfl⟩ := List.mem_map.1 mem
  rw [begun]
  exact (add_zero (0 : ℚ≥0)).le.trans minute_pos.le

theorem sameAnswers_stop : List.Forall₂ Turn.SameAnswers [answering (some (.stop {}))]
    [answering (some (.stop {}))] :=
  .cons ⟨rfl, rfl⟩ .nil

end Search

/-- The user is created before the crash, and after it the agent proposes an order for the user
    and stops. -/
theorem resume_agrees_created :
    let _ := Python.transparent
    let rest := [some (.action Search.ordering), some (.stop {})].map Search.answering
    ∃ crash ∈ Search.newSearch.saved Search.creating,
      Search.Resumes pointsPolicy "run" "strategy" crash Search.newAdapter rest []
        (Search.newSearch.loop (Search.creating :: rest)) := by
  intro _ rest
  have created : (Search.newSearch.turn Search.creating).toOption.map (fun created =>
      decide (created.2 = none ∧ created.1.illegalRetries = 0 ∧
        ¬ Search.ordering.Repeats created.1.history)) = some true := by
    decide +kernel
  have written : (Search.newSearch.saved Search.creating).map (fun crash =>
      (crash.strategies Search.newStrategy.strategyRunId).map fun strategy =>
        strategy.usage.elapsedSeconds) = [some 0] := by
    decide +kernel
  obtain ⟨⟨search', ended⟩, ht, facts⟩ := Option.map_eq_some_iff.1 created
  obtain ⟨rfl, patient, new⟩ := of_decide_eq_true facts
  obtain ⟨crash, crashed, elapsed⟩ := List.mem_map.1 (written ▸ List.mem_singleton_self _)
  have goesOn : Search.newSearch.turn Search.creating = .ok (search', none) :=
    Search.ok_of_toOption ht
  have begun : Search.newSearch.loop [] = .ok (Search.newSearch, none) := rfl
  have fresh : Search.newAdapter.pendingCalls = [] := rfl
  have serialized : Search.newStore.Serialized "strategy" [] := ⟨List.forall_mem_nil _, rfl⟩
  have same : List.Forall₂ Turn.SameAnswers rest rest := .cons ⟨rfl, rfl⟩ (.cons ⟨rfl, rfl⟩ .nil)
  refine ⟨crash, crashed, resume_agrees serialized Search.start_newSearch begun crashed fresh
    same (Search.timely_answering rfl _) (fun stored hs => ?_) goesOn ?_⟩
  · rw [hs] at elapsed
    exact Search.timely_answering (Option.some.inj elapsed) _
  · refine ⟨fun proposal _ reply _ => ?_, fun _ _ => ⟨fun proposal _ reply => ?_,
      fun _ _ => trivial⟩⟩
    · have orders : AgentReply.proposal (.action Search.ordering) = .proposal (.action proposal) :=
        reply
      cases orders
      exact ⟨fun _ _ repeats => absurd repeats new, fun _ _ _ => .inl patient⟩
    · have stops : AgentReply.proposal (.stop {}) = .proposal (.action proposal) := reply
      cases stops

/-- The agent creates the user, and stops with a candidate: it is lost in a crash. -/
theorem not_resume_agrees :
    let _ := Python.transparent
    ¬ ∀ (spec : PolicySpec) (runId : String) (store : InMemoryRuntimeStore)
      (strategy : StrategyRun) (adapter adapter' : RecordedLLMAdapter) (actions : List SimAction)
      (search between : Search) (turns rest rest' : List Turn) (turn : Turn)
      (crash : InMemoryRuntimeStore),
      store.Serialized strategy.strategyRunId actions →
      Search.start spec runId store strategy adapter = .ok search →
      search.loop turns = .ok (between, none) → crash ∈ between.saved turn →
      adapter'.pendingCalls = [] → List.Forall₂ Turn.SameAnswers rest rest' →
      Search.Timely strategy.usage.elapsedSeconds strategy.budget rest →
      (∀ stored, crash.strategies strategy.strategyRunId = some stored →
        Search.Timely stored.usage.elapsedSeconds strategy.budget rest') →
      Search.Resumes spec runId strategy.strategyRunId crash adapter' rest' between.rejectedKinds
        (search.loop (turns ++ turn :: rest)) := by
  intro _ claim
  have facts : (Search.newSearch.loop [Search.creating]).toOption.map (fun created =>
      decide (created.2.isSome = false ∧ created.1.Answerable Search.accusing ∧
        (Search.candidateStore created.1.accused).map (fun crash =>
          (crash.strategies Search.newStrategy.strategyRunId).map fun strategy =>
            strategy.usage.elapsedSeconds) = [some 0] ∧
        created.1.accused.toOption.map (fun accused =>
          accused.2.map fun ended => ended.found.isSome) = some (some true))) = some true := by
    decide +kernel
  obtain ⟨⟨between, ended⟩, hb, facts⟩ := Option.map_eq_some_iff.1 facts
  obtain ⟨going, answerable, written, found⟩ := of_decide_eq_true facts
  obtain rfl : ended = none := Option.not_isSome_iff_eq_none.1 (Bool.eq_false_iff.1 going)
  obtain ⟨turn, saved⟩ := answerable.accused
  rw [← saved] at written
  rw [← turn] at found
  have passed : Search.newSearch.loop [Search.creating] = .ok (between, none) :=
    Search.ok_of_toOption hb
  obtain ⟨crash, crashed, elapsed⟩ := List.mem_map.1 (written ▸ List.mem_singleton_self _)
  obtain ⟨strategy, again, -, -, related⟩ := claim _ _ _ _ _ Search.newAdapter [] _ _ _ _ _
    Search.accusing crash ⟨List.forall_mem_nil _, rfl⟩ Search.start_newSearch passed crashed rfl
    Search.sameAnswers_stop (Search.timely_answering rfl [some (.stop {})]) fun stored hs => by
      rw [hs] at elapsed
      exact Search.timely_answering (Option.some.inj elapsed) [some (.stop {})]
  obtain ⟨⟨live, ended⟩, ht, hended⟩ := Option.map_eq_some_iff.1 found
  obtain ⟨ended, rfl, found⟩ := Option.map_eq_some_iff.1 hended
  have gone : Search.newSearch.loop
      ([Search.creating] ++ Search.accusing :: [Search.answering (some (.stop {}))]) =
        .ok (live, some ended) := by
    rw [Search.loop_append passed, Search.loop, Search.ok_of_toOption ht]
    rfl
  rw [gone] at related
  cases hr : again.loop [Search.answering (some (.stop {}))] with
  | error e =>
    rw [hr] at related
    cases related
  | ok after =>
    rw [hr] at related
    obtain ⟨again', ended'⟩ := after
    obtain ⟨agree⟩ := related
    obtain rfl := agree.ended
    rw [Search.found_of_stop hr] at found
    cases found

end RuleArena
