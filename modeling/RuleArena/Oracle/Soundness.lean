import RuleArena.Oracle.Repeats

/-!
# The oracle does not accuse a faithful sandbox

On the evidence of commands executed in an environment without defects, whatever
the commands, the oracle reports no violation (`oracle_sound`). The snapshots are
those of a chain of runs in which terminal states of orders stay, the receipts
are those of the last run, and so is the event log.
-/

namespace RuleArena

namespace RunSpace

variable [Python]

/-- A command that is answered with a receipt left it in the run. -/
theorem execute_receipt (run : RunSpace) (command : ActionCommand) (now : Nat) (uuid : String)
    {receipt : ActionReceipt} (h : (run.execute command now uuid).2.receipt? = some receipt) :
    ∃ action key record, (run.execute command now uuid).1.existing action key = some record ∧
      receipt = record.toReceipt run.id := by
  have acknowledged : ∀ record, (run.acknowledge command record).receipt? = some receipt →
      receipt = record.toReceipt run.id := by
    intro record h
    unfold acknowledge at h
    split at h <;> simp [Reply.receipt?] at h
    exact h.symm
  generalize hx : run.execute command now uuid = answer at h ⊢
  unfold execute at hx
  split at hx
  · simp [← hx, Reply.receipt?] at h
  dsimp only at hx
  split at hx
  · simp [← hx, Reply.receipt?] at h
  split at hx
  · rename_i record he
    subst hx
    exact ⟨_, _, record, he, acknowledged record h⟩
  · rename_i new
    split at hx
    · rename_i run' record hp
      subst hx
      exact ⟨_, _, record, existing_perform new hp, acknowledged record h⟩
    · simp [← hx, Reply.receipt?] at h
    · simp [← hx, Reply.receipt?] at h

omit [Python] in
theorem noReset_calls (calls : List Call) : Op.reset ∉ calls.map Call.op := by
  simp [Call.op]

theorem final_cons (run : RunSpace) (call : Call) (calls : List Call) :
    run.final (call :: calls) =
      (run.execute call.command call.now call.uuid).1.final calls := rfl

/-- The receipts the commands are answered with are receipts of the run in the end. -/
theorem answers_own (run : RunSpace) (calls : List Call) :
    ∀ receipt ∈ run.answers calls, ∃ record ∈ (run.final calls).epochReceipts,
      receipt = record.toReceipt (run.final calls).id := by
  induction calls generalizing run with
  | nil => simp [answers]
  | cons call calls ih =>
    intro receipt hm
    rw [final_cons]
    rcases List.mem_append.1 hm with hm | hm
    · obtain ⟨action, key, record, he, rfl⟩ := execute_receipt run _ _ _ (Option.mem_toList.1 hm)
      have kept := existing_after he (noReset_calls calls)
      refine ⟨record, List.mem_of_find?_eq_some kept, ?_⟩
      rw [final, (created_after _ _).1]
      exact congrArg _ (created_apply run call.op).1.symm
    · exact ih _ receipt hm

/-- A command keeps the terminal states of orders. -/
theorem execute_keeps (run : RunSpace) (command : ActionCommand) (now : Nat) (uuid : String) :
    Oracle.Keeps run (run.execute command now uuid).1 := by
  intro orderId state hs ht
  rcases execute_cases run command now uuid with e | ⟨record, -, hp, -⟩
  · rw [e, hs]
  · rcases perform_ok hp with ⟨-, ⟨r, outcome, hd, -, -, e⟩ | ⟨error, -, -, e⟩⟩ <;> rw [e]
    · obtain ⟨order, hf, rfl⟩ := Option.map_eq_some_iff.1 hs
      have terminal : order.status = .cancelled ∨ order.status = .refunded := by
        revert ht
        cases order.status <;> decide
      have kept := handler_order_kept (dispatch_ok hd).1 hf terminal
      have found : Table.find? Order.id ((r.versioned command.action).withReceipt record).orders
          orderId = some order := kept
      rw [Oracle.stateOf, found]
      rfl
    · exact hs

/-- The stages of a run: the first one, each kept by the next, and the last one. -/
theorem stages_spec (run : RunSpace) (startedAt : Nat) (calls : List Call) :
    ((run, startedAt) :: run.stages calls).IsChain (fun a b => Oracle.Keeps a.1 b.1) ∧
      (∀ stage ∈ (run, startedAt) :: run.stages calls, ∃ history, stage.1 = run.after history) ∧
      ∃ capturedAt, ((run, startedAt) :: run.stages calls).getLast? =
        some (run.final calls, capturedAt) := by
  induction calls generalizing run startedAt with
  | nil => exact ⟨List.isChain_singleton _, by simpa [stages] using ⟨[], rfl⟩, startedAt, rfl⟩
  | cons call calls ih =>
    obtain ⟨chain, reached, last⟩ :=
      ih (run.execute call.command call.now call.uuid).1 call.capturedAt
    refine ⟨List.isChain_cons_cons.2 ⟨execute_keeps run _ _ _, chain⟩, fun stage hm => ?_, ?_⟩
    · rcases List.mem_cons.1 hm with rfl | hm
      · exact ⟨[], rfl⟩
      · obtain ⟨history, e⟩ := reached stage hm
        exact ⟨call.op :: history, e⟩
    · obtain ⟨capturedAt, e⟩ := last
      exact ⟨capturedAt, by rw [stages, List.getLast?_cons_cons, e, final_cons]⟩

/-- What the oracle is given of a sequence of commands: the last snapshot, the
    receipts and the events are those of the run in the end, and no order leaves a
    terminal state. -/
structure Judged (run : RunSpace) (calls : List Call) (snapshots : List Json) : Prop where
  reachable : (run.final calls).Reachable
  profile : (run.final calls).profile = run.profile
  scenarioType : (run.final calls).scenarioType = run.scenarioType
  last : ∃ capturedAt, snapshots.getLast? = some ((run.final calls).snapshot capturedAt)
  monotone : Oracle.Acquits (Oracle.terminalMonotonicity snapshots)
  own : ∀ receipt ∈ run.answers calls, ∃ record ∈ (run.final calls).epochReceipts,
    receipt = record.toReceipt (run.final calls).id

theorem Reachable.judged {run : RunSpace} (hr : Reachable run) (startedAt : Nat)
    (calls : List Call) :
    Judged run calls (((run, startedAt) :: run.stages calls).map fun stage =>
      stage.1.snapshot stage.2) := by
  obtain ⟨chain, reached, capturedAt, last⟩ := run.stages_spec startedAt calls
  have ended := run.created_after (calls.map Call.op)
  have keyed : ∀ stage ∈ (run, startedAt) :: run.stages calls,
      Table.Keyed Order.id stage.1.orders := by
    intro stage hm
    obtain ⟨history, e⟩ := reached stage hm
    rw [e]
    exact (hr.after history).storable.orders_keyed
  refine ⟨hr.after _, ended.2.1, ended.2.2, ⟨capturedAt, ?_⟩,
    Oracle.acquits_terminalMonotonicity keyed chain, run.answers_own calls⟩
  rw [List.getLast?_map, last]
  rfl

end RunSpace

/-- On the evidence of commands executed in a faithful environment the oracle
    raises no exception and reports no violation. -/
theorem oracle_sound [Python] (request : CreateRunRequest) (id : String) (start : List Op)
    (startedAt : Nat) (calls : List Call) (spec : RuleSpec)
    (faithful : (createRun request id).profile.Faithful)
    (describes : spec.Describes request.scenarioType) :
    ∃ findings, ((createRun request id).after start).judge spec startedAt calls = .ok findings ∧
      ∀ finding ∈ findings, finding.status ≠ .violated := by
  have created := (createRun request id).created_after start
  have judged := RunSpace.Reachable.judged ⟨request, id, start, rfl⟩ startedAt calls
  rw [RunSpace.judge]
  have hf : (((createRun request id).after start).final calls).profile.Faithful := by
    rw [judged.profile, created.2.1]
    exact faithful
  have hd : spec.Describes (((createRun request id).after start).final calls).scenarioType := by
    rw [judged.scenarioType, created.2.2]
    exact describes
  obtain ⟨hr, -, -, ⟨capturedAt, last⟩, monotone, own⟩ := judged
  generalize ((createRun request id).after start).final calls = final at *
  generalize List.map (fun stage : RunSpace × Nat => stage.1.snapshot stage.2) _ = snapshots at *
  generalize ((createRun request id).after start).answers calls = receipts at *
  obtain ⟨-, -, -, -, -, unused, nothing, bounded⟩ := hf.flags
  have settled := hr.settled unused nothing
  have nonneg := hr.available_nonneg bounded
  -- Every check acquits the run.
  have acquitted : ∀ check ∈ Oracle.checks spec snapshots (receipts.map ActionReceipt.toJson)
      final.getEvents, Oracle.Acquits check.2 := by
    simp only [Oracle.checks, List.mem_cons, List.not_mem_nil, or_false]
    rintro check (rfl | rfl | rfl | rfl | rfl | rfl | rfl | rfl)
    · exact Oracle.acquits_netPaid hr (hr.refunded_le_paid hf) last
    · exact Oracle.acquits_refundLimit hr (hr.refunded_le_paid hf) last
    · exact Oracle.acquits_couponConsumption hr hf.flags.1 last
    · exact Oracle.acquits_pointsConservation hr hf hd last
    · exact monotone
    · exact Oracle.acquits_entitlementNonNegative nonneg last
    · exact Oracle.acquits_entitlementRefund hr settled (fun _ _ _ e he _ => nonneg e he) hd last
    · exact Oracle.acquits_idempotency hr (hr.events_once hf) own
  exact Oracle.report_of_acquits acquitted

theorem promotionRules_allowed : ∀ rule ∈ [Rule.promotion, Rule.refund],
    rule.ruleType ∈ ScenarioType.promotion.ruleTypes := by
  decide

theorem promotionRules_primary : ∃ rule ∈ [Rule.promotion, Rule.refund],
    ScenarioType.promotion.ruleTypes.head? = some rule.ruleType :=
  ⟨_, List.mem_cons_self, rfl⟩

theorem promotionRules_unique : ([Rule.promotion, Rule.refund].map Rule.ruleType).Nodup := by
  decide

/-- The rules of a promotion. -/
def promotionSpec : RuleSpec where
  scenarioType := .promotion
  rules := [.promotion, .refund]
  allowed := promotionRules_allowed
  primary := promotionRules_primary
  unique := promotionRules_unique

/-- The rule at work on a partial refund. -/
theorem oracle_sound_refund :
    let _ := Python.transparent
    ∃ findings, ((createRun { scenarioType := .promotion } "run").after paidHistory).judge
        promotionSpec 4 [⟨refundOrderCommand, "", 5, 6⟩] = .ok findings ∧
      ∀ finding ∈ findings, finding.status ≠ .violated := by
  intro _
  exact oracle_sound { scenarioType := .promotion } "run" paidHistory 4
    [⟨refundOrderCommand, "", 5, 6⟩] promotionSpec rfl
    ⟨rfl, by simp [RuleSpec.pointsRule, promotionSpec], by simp [RuleSpec.refundPolicy, promotionSpec]⟩

end RuleArena
