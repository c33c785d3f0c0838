import RuleArena.Oracle.Soundness
import RuleArena.Oracle.Total
import RuleArena.Runtime.Evidence
import RuleArena.Runtime.Replay

/-!
# Attacks on a faithful sandbox

What a replay shows the oracle is what its run has gone through: receipts of this run, and
snapshots one after the other (`Replay.Kept`). If the run is that of an environment without
defects then the oracle acquits it, whatever is posted to it (`replay_acquits`). So no worker
that attacks such a sandbox ever saves a counterexample, and no run ends with a confirmed violation
(`Episode.faithful_confirms_nothing`).
-/

namespace RuleArena

open Oracle (Keeps)

variable [Python]

/-! ## What a replay keeps -/

namespace RunSpace

variable {run : RunSpace} {key uuid : String} {now : Nat} {command : ActionCommand}
  {receipt : ActionReceipt}

omit [Python] in
/-- A receipt that is given back is one of the run. -/
theorem getReceipt_own (found : run.getReceipt key = .ok receipt) :
    ∃ record ∈ run.epochReceipts, receipt = record.toReceipt run.id := by
  unfold getReceipt at found
  obtain ⟨_, -, found⟩ := Checked.bind_eq_ok.1 found
  have sorted := List.perm_insertionSort
    (fun a b : ActionReceiptRecord => a.occurredAt ≤ b.occurredAt)
    (run.epochReceipts.filter (·.idempotencyKey = key))
  split at found
  · next record rest first =>
    have mem := sorted.mem_iff.1 (first ▸ List.mem_cons_self)
    exact ⟨record, List.mem_of_mem_filter mem, (Except.ok.inj found).symm⟩
  · cases found

/-- A command adds at most the receipt that it is answered with. -/
theorem execute_receipts (run : RunSpace) (command : ActionCommand) (now : Nat) (uuid : String) :
    (run.execute command now uuid).1.epochReceipts = run.epochReceipts ∨
      ∃ record, record.occurredAt = now ∧
        (run.execute command now uuid).1.epochReceipts = run.epochReceipts ++ [record] := by
  rcases execute_cases run command now uuid with e | ⟨record, -, performed, -⟩
  · exact .inl (congrArg epochReceipts e)
  · refine .inr ⟨record, ?_, perform_receipts performed⟩
    rcases perform_ok performed with ⟨-, ⟨_, _, -, rfl, -⟩ | ⟨_, -, rfl, -⟩⟩ <;> rfl

/-- A receipt of a run is one of the run after a command. -/
theorem own_execute (own : ∃ record ∈ run.epochReceipts, receipt = record.toReceipt run.id)
    (command : ActionCommand) (now : Nat) (uuid : String) :
    ∃ record ∈ (run.execute command now uuid).1.epochReceipts,
      receipt = record.toReceipt (run.execute command now uuid).1.id := by
  obtain ⟨record, mem, same⟩ := own
  refine ⟨record, ?_, same.trans (congrArg record.toReceipt
    (created_apply run (.execute command uuid now)).1.symm)⟩
  rcases run.execute_receipts command now uuid with e | ⟨added, -, e⟩ <;> rw [e]
  · exact mem
  · exact List.mem_append_left _ mem

end RunSpace

namespace Replay

variable {replay : Replay} {request : CreateRunRequest} {run run' : RunSpace}
  {stages : List (RunSpace × Nat)}

/-- The receipt of a command is one of the run after it. -/
theorem receiptOf_own {command : ActionCommand} {key uuid : String} {now : Nat}
    {receipt : ActionReceipt}
    (h : receiptOf (run.execute command now uuid).1 key (run.execute command now uuid).2 =
      .ok receipt) :
    ∃ record ∈ (run.execute command now uuid).1.epochReceipts,
      receipt = record.toReceipt (run.execute command now uuid).1.id := by
  have id : (run.execute command now uuid).1.id = run.id :=
    (RunSpace.created_apply run (.execute command uuid now)).1
  cases reply : (run.execute command now uuid).2 with
  | receipt answer =>
    rw [reply] at h
    obtain rfl := Except.ok.inj h
    obtain ⟨_, _, record, found, same⟩ :=
      run.execute_receipt command now uuid (congrArg Reply.receipt? reply)
    exact ⟨record, List.mem_of_find?_eq_some found, id.symm ▸ same⟩
  | ackLost answer =>
    rw [reply] at h
    unfold receiptOf authoritativeReceipt at h
    cases found : (run.execute command now uuid).1.getReceipt key with
    | ok receipt' =>
      rw [found] at h
      obtain rfl := Except.ok.inj h
      exact RunSpace.getReceipt_own found
    | error fault =>
      rw [found] at h
      cases fault <;> cases h
  | error error => rw [reply] at h; cases h
  | crash crash => rw [reply] at h; cases h

/-- The runs that a replay has gone through, of which the last one is that of the replay. -/
structure Staged (run : RunSpace) (stages : List (RunSpace × Nat)) : Prop where
  keyed : ∀ stage ∈ stages, Table.Keyed Order.id stage.1.orders
  chain : stages.IsChain fun a b => Keeps a.1 b.1
  last : ∃ capturedAt, stages.getLast? = some (run, capturedAt)

omit [Python] in
theorem Staged.concat (staged : Staged run stages) (keeps : Keeps run run')
    (keyed : Table.Keyed Order.id run'.orders) (capturedAt : Nat) :
    Staged run' (stages ++ [(run', capturedAt)]) where
  keyed stage mem := by
    rcases List.mem_append.1 mem with mem | last
    · exact staged.keyed stage mem
    · rw [List.mem_singleton.1 last]
      exact keyed
  chain := by
    refine staged.chain.append (List.isChain_singleton _) fun last mem first mem' => ?_
    obtain ⟨_, same⟩ := staged.last
    rw [same] at mem
    cases mem
    cases mem'
    exact keeps
  last := ⟨capturedAt, List.getLast?_concat⟩

/-- The receipts of a replay are those of its run, and its snapshots those of the runs it has gone
    through. -/
structure Kept (request : CreateRunRequest) (replay : Replay) : Prop where
  reachable : RunSpace.Reachable replay.run
  profile : replay.run.profile =
    SandboxProfile.forRun request.sandboxVersion request.defectAxes
  scenarioType : replay.run.scenarioType = request.scenarioType
  own : ∀ receipt ∈ replay.receipts, ∃ record ∈ replay.run.epochReceipts,
    receipt = record.toReceipt replay.run.id
  staged : ∃ stages, Staged replay.run stages ∧
    replay.snapshots = stages.map fun stage => stage.1.snapshot stage.2

theorem kept_start (request : CreateRunRequest) (runId : String) (capturedAt : Nat) :
    (start request runId capturedAt).Kept request where
  reachable := ⟨request, runId, [], rfl⟩
  profile := rfl
  scenarioType := rfl
  own _ mem := absurd mem List.not_mem_nil
  staged := by
    refine ⟨[(createRun request runId, capturedAt)], ⟨?_, List.isChain_singleton _,
      capturedAt, rfl⟩, rfl⟩
    intro stage mem
    rw [List.mem_singleton.1 mem]
    exact List.nodup_nil

theorem Kept.execute (kept : replay.Kept request) {moment : Moment} {command : ActionCommand}
    {key : String} (ended : (replay.execute moment command key).2 = none) :
    (replay.execute moment command key).1.Kept request := by
  unfold Replay.execute at ended ⊢
  dsimp only at ended ⊢
  cases got : receiptOf (replay.run.execute command moment.now moment.uuid).1 key
      (replay.run.execute command moment.now moment.uuid).2 with
  | error error => rw [got] at ended; cases ended
  | ok receipt =>
    dsimp only
    have reachable := kept.reachable.apply (.execute command moment.uuid moment.now)
    obtain ⟨-, profile, scenarioType⟩ :=
      replay.run.created_apply (.execute command moment.uuid moment.now)
    refine ⟨reachable, profile.trans kept.profile, scenarioType.trans kept.scenarioType, ?_, ?_⟩
    · intro answer mem
      rcases List.mem_append.1 mem with mem | last
      · exact RunSpace.own_execute (kept.own answer mem) command moment.now moment.uuid
      · rw [List.mem_singleton.1 last]
        exact receiptOf_own got
    · obtain ⟨stages, staged, snapshots⟩ := kept.staged
      refine ⟨_, staged.concat (replay.run.execute_keeps command moment.now moment.uuid)
        reachable.storable.orders_keyed moment.capturedAt, ?_⟩
      dsimp only
      rw [snapshots, List.map_append]
      rfl

theorem Kept.post (kept : replay.Kept request) (index : Nat) (moment : Moment)
    (action : SimAction) (ended : (replay.post index moment action).2 = none) :
    (replay.post index moment action).1.Kept request := by
  unfold Replay.post at ended ⊢
  dsimp only at ended ⊢
  split_ifs at ended ⊢
  cases posted : (replay.aliases.posted index action).command? with
  | none => rw [posted] at ended; cases ended
  | some command =>
    rw [posted] at ended
    refine Kept.execute ?_ ended
    exact ⟨kept.reachable, kept.profile, kept.scenarioType, kept.own, kept.staged⟩

theorem Kept.actions (kept : replay.Kept request) (moments : Nat → Moment) (index : Nat)
    (trace : List SimAction) (ended : (replay.actions moments index trace).2 = none) :
    (replay.actions moments index trace).1.Kept request := by
  induction trace generalizing replay index with
  | nil => exact kept
  | cons action trace ih =>
    rw [Replay.actions] at ended ⊢
    rcases h : replay.post index (moments index) action with ⟨next, _ | error⟩
    · rw [h] at ended
      have kept' := kept.post index (moments index) action (congrArg Prod.snd h)
      rw [h] at kept'
      exact ih kept' (index + 1) ended
    · rw [h] at ended
      cases ended

end Replay

/-! ## What is acquitted -/

/-- A run of a faithful environment is acquitted by the evidence that a replay keeps of it. -/
theorem Replay.Kept.acquits {replay : Replay} {request : CreateRunRequest}
    (kept : replay.Kept request)
    (faithful : (SandboxProfile.forRun request.sandboxVersion request.defectAxes).Faithful)
    {spec : RuleSpec} (describes : spec.Describes request.scenarioType) :
    ∃ findings, Oracle.evaluate spec replay.snapshots (replay.receipts.map ActionReceipt.toJson)
        replay.run.getEvents = .ok findings ∧ ∀ finding ∈ findings, finding.status ≠ .violated := by
  obtain ⟨hr, profile, scenarioType, own, stages, ⟨keyed, chain, capturedAt, ended⟩, snapshots⟩ :=
    kept
  have hf : replay.run.profile.Faithful := profile ▸ faithful
  have hd : spec.Describes replay.run.scenarioType := scenarioType ▸ describes
  have last : replay.snapshots.getLast? = some (replay.run.snapshot capturedAt) := by
    rw [snapshots, List.getLast?_map, ended]
    rfl
  have monotone : Oracle.Acquits (Oracle.terminalMonotonicity replay.snapshots) :=
    snapshots ▸ Oracle.acquits_terminalMonotonicity keyed chain
  obtain ⟨-, -, -, -, -, unused, nothing, bounded⟩ := hf.flags
  have settled := hr.settled unused nothing
  have nonneg := hr.available_nonneg bounded
  have acquitted : ∀ check ∈ Oracle.checks spec replay.snapshots
      (replay.receipts.map ActionReceipt.toJson) replay.run.getEvents, Oracle.Acquits check.2 := by
    simp only [Oracle.checks, List.mem_cons, List.not_mem_nil, or_false]
    rintro check (rfl | rfl | rfl | rfl | rfl | rfl | rfl | rfl)
    · exact Oracle.acquits_netPaid hr (hr.refunded_le_paid hf) last
    · exact Oracle.acquits_refundLimit hr (hr.refunded_le_paid hf) last
    · exact Oracle.acquits_couponConsumption hr hf.flags.1 last
    · exact Oracle.acquits_pointsConservation hr hf hd last
    · exact monotone
    · exact Oracle.acquits_entitlementNonNegative nonneg last
    · exact Oracle.acquits_entitlementRefund hr settled (fun _ _ _ e he _ => nonneg e he) hd last
    · exact Oracle.acquits_idempotency hr (hr.events_once hf) own
  exact Oracle.report_of_acquits acquitted

/-- A replay on a faithful sandbox fails by a reply of the sandbox, or finds nothing violated. -/
theorem replay_acquits {spec : RuleSpec} {request : CreateRunRequest}
    (faithful : (SandboxProfile.forRun request.sandboxVersion request.defectAxes).Faithful)
    (describes : spec.Describes request.scenarioType) (trace : List SimAction)
    (targetInvariant : InvariantId) (runId : String) (capturedAt : Nat) (moments : Nat → Moment) :
    (∃ error, replay spec trace targetInvariant request runId capturedAt moments =
      .error (.replay error)) ∨
    ∃ report, replay spec trace targetInvariant request runId capturedAt moments = .ok report ∧
      report.classification ≠ .confirmedViolation ∧ report.violated = [] := by
  unfold replay
  rcases h : (Replay.start request runId capturedAt).actions moments 0 trace with
    ⟨ended, _ | error⟩
  · have kept := (Replay.kept_start request runId capturedAt).actions moments 0 trace
      (congrArg Prod.snd h)
    rw [h] at kept
    obtain ⟨findings, report, innocent⟩ := kept.acquits faithful describes
    dsimp only at report ⊢
    rw [report]
    dsimp only
    cases found : findings.find? fun finding => finding.invariantId = targetInvariant with
    | none =>
      -- Each invariant has a finding.
      have ids := Oracle.report_ids report
      have target : targetInvariant ∈ findings.map OracleFinding.invariantId := by
        rw [ids]
        cases targetInvariant <;> simp [Oracle.checks]
      obtain ⟨finding, mem, same⟩ := List.mem_map.1 target
      exact absurd (decide_eq_true same) (List.find?_eq_none.1 found finding mem)
    | some finding =>
      refine .inr ⟨_, rfl, ?_, ?_⟩
      · have status := innocent finding (List.mem_of_find?_eq_some found)
        dsimp only
        unfold classifyReplay
        cases hs : finding.status with
        | violated => exact absurd hs status
        | _ => decide
      · rw [ReplayResult.violated, List.map_eq_nil_iff, List.filter_eq_nil_iff]
        intro finding mem violated
        exact innocent finding mem (of_decide_eq_true violated)
  · exact .inl ⟨error, rfl⟩

namespace Episode

/-- What the replay gateway returns is what replays on a faithful sandbox have come to. -/
def Faithful (visits : StrategyType → Visit) : Prop :=
  ∀ strategyType replayed, (visits strategyType).replay = some replayed →
    ∃ spec trace targetInvariant request runId capturedAt moments,
      (SandboxProfile.forRun request.sandboxVersion request.defectAxes).Faithful ∧
      spec.Describes request.scenarioType ∧
      replay spec trace targetInvariant request runId capturedAt moments = .ok replayed

/-- Whatever workers do and the agents propose, and other parties that give no verdict: if the
    sandbox has no defect then there is never a counterexample or a confirmed violation, and every
    replay fails by a reply of the sandbox or finds nothing violated. -/
theorem faithful_confirms_nothing (episodes : List Episode)
    (noVerdict : ∀ op, .other op ∈ episodes → op.NoVerdict)
    (faithful : ∀ worker runId visits cancels,
      .worked worker runId visits cancels ∈ episodes → Faithful visits) :
    ((after episodes).counterexampleRecords = [] ∧
      ∀ runId run, (after episodes).runs runId = some run →
        run.outcome ≠ some .confirmedViolation) ∧
    ∀ (spec : RuleSpec) (request : CreateRunRequest),
      (SandboxProfile.forRun request.sandboxVersion request.defectAxes).Faithful →
      spec.Describes request.scenarioType → ∀ trace targetInvariant runId capturedAt moments,
      (∃ error, replay spec trace targetInvariant request runId capturedAt moments =
        .error (.replay error)) ∨
      ∃ report, replay spec trace targetInvariant request runId capturedAt moments = .ok report ∧
        report.classification ≠ .confirmedViolation ∧ report.violated = [] := by
  refine ⟨?_, fun spec request => replay_acquits⟩
  obtain ⟨backed, proved⟩ := sound episodes noVerdict
  have none : (after episodes).counterexampleRecords = [] := by
    rw [List.eq_nil_iff_forall_not_mem]
    intro record mem
    obtain ⟨earlier, worker, runId, visits, cancels, later, -, strategyType, candidate, rfl, -, -,
      -, -, -, ofReplay⟩ := proved record mem
    obtain ⟨replayed, visited, -, violated⟩ := ofReplay.replayed
    obtain ⟨spec, trace, targetInvariant, request, runId', capturedAt, moments, innocent, describes,
      answer⟩ := faithful worker runId visits cancels (by simp) strategyType replayed visited
    rcases replay_acquits innocent describes trace targetInvariant runId' capturedAt moments with
      ⟨error, failed⟩ | ⟨report, ended, -, clean⟩
    · rw [answer] at failed
      cases failed
    · rw [answer] at ended
      obtain rfl := Except.ok.inj ended
      rw [clean] at violated
      cases violated
  refine ⟨none, fun runId run found outcome => ?_⟩
  obtain ⟨-, record, mem, -⟩ := backed runId run found outcome
  rw [none] at mem
  cases mem

/-- The candidate of a strategy is replayed in a run of a promotion. -/
def defendedVisits (request : CreateRunRequest) (strategyType : StrategyType) : Visit where
  uuid := strategyType.value
  turns := []
  replay :=
    (replay promotionSpec orderTwice .refundNotExceedPaid request "replay" 0 fun _ => {}).toOption

/-- A run that is left replaying a candidate, and a worker that recovers it. -/
def defended (request : CreateRunRequest) : List Episode :=
  refuting.take 5 ++ [.worked twoSearch "run" (defendedVisits request) []]

omit [Python] in
theorem faithful_confirms_nothing_defended :
    let _ := Python.transparent
    let request : CreateRunRequest := { scenarioType := .promotion }
    (twoSearch.run "run" (defendedVisits request)
      { store := after (refuting.take 5) }).2.replays.length = 1 ∧
    (after (defended request)).counterexampleRecords = [] := by
  intro _ request
  have answered : ∀ strategyType replayed,
      (defendedVisits request strategyType).replay = some replayed →
        replay promotionSpec orderTwice .refundNotExceedPaid request "replay" 0 (fun _ => {}) =
          .ok replayed := by
    intro _ replayed visited
    unfold defendedVisits at visited
    dsimp only at visited
    cases h : replay promotionSpec orderTwice .refundNotExceedPaid request "replay" 0
        fun _ => {} with
    | error failure => rw [h] at visited; cases visited
    | ok report => rw [h] at visited; exact congrArg Except.ok (Option.some.inj visited)
  refine ⟨by decide +kernel, (faithful_confirms_nothing (defended request) (fun op mem => ?_)
    fun worker runId visits cancels mem => ?_).1.1⟩
  · rcases List.mem_append.1 mem with mem | mem
    · exact refuting_noVerdict op (List.mem_of_mem_take mem)
    · cases List.mem_singleton.1 mem
  · rcases List.mem_append.1 mem with mem | mem
    · simp [refuting] at mem
    · cases List.mem_singleton.1 mem
      intro strategyType replayed visited
      exact ⟨promotionSpec, orderTwice, .refundNotExceedPaid, request, "replay", 0, fun _ => {},
        rfl, ⟨rfl, by simp [RuleSpec.pointsRule, promotionSpec],
          by simp [RuleSpec.refundPolicy, promotionSpec]⟩, answered strategyType replayed visited⟩

end Episode

end RuleArena
