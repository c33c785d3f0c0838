import RuleArena.Refund.Once

/-!
# The gate in front of a faithful sandbox

When nothing is lost and nobody else writes, an agent that goes through the gate ends as
one that does not: with the same outcome, and with runs that differ in receipts at most
(`RefundAgent.handle_transparent`). An attempt that the gate lets pass is the same POST in
both cases, and what it comes to is not held back afterwards, since its effect is seen.
One that it blocks would be rejected by the sandbox, again and again
(`RefundAgent.tryAttempts_hopeless`).
-/

namespace RuleArena

open Interaction

/-! ## Receipts that are looked up -/

namespace RunSpace

variable [Python] {run run' : RunSpace} {key : String}

/-- Under a key that is not used no receipt is found. -/
theorem showReceipt_unused (plain : Plain key)
    (unused : ∀ record ∈ run.epochReceipts, record.idempotencyKey ≠ key) :
    run.showReceipt key = receiptNotFound.toHttp := by
  have none : run.epochReceipts.filter (·.idempotencyKey = key) = [] := by
    rw [List.filter_eq_nil_iff]
    exact fun record mem same => unused record mem (of_decide_eq_true same)
  have missing : run.getReceipt key = .error (.domain receiptNotFound) := by
    rw [getReceipt, queryText, Checked.ensure_of_pos (show Char.ofNat 0 ∉ key.toList from plain),
      Checked.ok_bind, none]
    rfl
  rw [showReceipt, missing]
  rfl

/-- A key that no query takes. -/
theorem showReceipt_unplain (unplain : ¬ Plain key) : run.showReceipt key = ⟨500, none⟩ := by
  have crash : run.getReceipt key = .error (.crash .dataError) := by
    have rejected : ¬ Char.ofNat 0 ∉ key.toList := unplain
    rw [getReceipt, queryText, Checked.ensure_of_neg rejected, Checked.error_bind]
  rw [showReceipt, crash]
  rfl

end RunSpace

/-! ## What comes of a POST -/

namespace RunSpace

variable [Python] {run : RunSpace} {command : ActionCommand} {key : String} {now : Nat}
  {uuid : String}

/-- A command under a new key is performed, or changes nothing and is answered with an error. -/
theorem execute_new (effective : effectiveKey command uuid = key)
    (new : run.existing command.action key = none) :
    (∃ record, Plain key ∧
      run.perform command key now = .ok ((run.execute command now uuid).1, record) ∧
      (run.execute command now uuid).2 = run.acknowledge command record) ∨
    (run.execute command now uuid).1 = run ∧
      ((∃ error, (run.execute command now uuid).2 = .error error) ∨
        ∃ crash, (run.execute command now uuid).2 = .crash crash) := by
  unfold execute
  rw [effective]
  split_ifs with keyless
  · exact .inr ⟨rfl, .inl ⟨_, rfl⟩⟩
  dsimp only
  split_ifs with plain
  · exact .inr ⟨rfl, .inr ⟨_, rfl⟩⟩
  simp only [new]
  cases performed : run.perform command key now with
  | ok result => exact .inl ⟨result.2, plain, rfl, rfl⟩
  | error fault =>
    cases fault with
    | domain error => exact .inr ⟨rfl, .inl ⟨_, rfl⟩⟩
    | crash crash => exact .inr ⟨rfl, .inr ⟨_, rfl⟩⟩

/-- A refund that cannot be made is committed with a receipt of its rejection at most. -/
theorem rejected_of_perform {run' : RunSpace} {record : ActionReceiptRecord}
    (fails : ∀ result, run.savepoint command key now ≠ .ok result)
    (performed : run.perform command key now = .ok (run', record)) :
    record.status = .rejected ∧ run' = run.withReceipt record := by
  unfold perform at performed
  cases made : run.savepoint command key now with
  | ok result => exact absurd made (fails result)
  | error fault =>
    rw [made] at performed
    cases fault with
    | domain error =>
      simp only [addReceipt, Checked.bind_eq_ok, Checked.pure_eq_ok, Prod.mk.injEq,
        flush_eq_ok] at performed
      obtain ⟨_, ⟨-, rfl⟩, rfl, rfl⟩ := performed
      exact ⟨rfl, rfl⟩
    | crash crash => cases performed

end RunSpace

/-- A response of an error is not a success, and not taken for a timeout. -/
theorem interpret_error [Python] {reply : Reply} {action : SimAction}
    (error : (∃ error, reply = .error error) ∨ ∃ crash, reply = .crash crash) :
    (interpret reply.toHttp.status reply.toHttp.body action).outcome ∈
      [ToolOutcome.failed, .unknown] := by
  have status : reply.toHttp.status ≠ 200 ∧ reply.toHttp.status ∉ [502, 503, 504] := by
    obtain ⟨error, rfl⟩ | ⟨crash, rfl⟩ := error
    · have := error.toHttp_status
      simp only [Reply.toHttp, List.mem_cons, List.not_mem_nil, or_false]
      omega
    · simp only [Reply.toHttp]
      decide
  unfold interpret
  rw [if_neg status.1]
  dsimp only
  rw [if_neg status.2]
  split_ifs
  · exact List.mem_cons_of_mem _ (List.mem_singleton.2 rfl)
  · exact List.mem_cons_self

section Posted

variable [Python] {clock : RunSpace → Nat} {uuid : RunSpace → String} {d : Deployment}
  {action : SimAction} {key : String}

/-- A POST under a new key performs the action in a sandbox that loses no acknowledgement, or it
    fails and changes nothing. -/
theorem posted_cases (faithful : d.run.profile.Faithful)
    (effective : action.idempotencyKey.getD ("inspect:" ++ uuid d.run) = key)
    (new : d.run.existing action.actionType key = none) :
    (∃ command record, ActionCommand.ofJson? action.toHttpPayload = some command ∧ Plain key ∧
      (d.posted clock uuid action).run =
        (d.run.execute command (clock d.run) (uuid d.run)).1 ∧
      d.run.perform command key (clock d.run) = .ok ((d.posted clock uuid action).run, record) ∧
      d.result clock uuid action = fromReceipt (record.toReceipt d.run.id).toJson action) ∨
    d.posted clock uuid action = d ∧
      (d.result clock uuid action).outcome ∈ [ToolOutcome.failed, .unknown] := by
  unfold Deployment.result Deployment.posted Deployment.response
  rcases read : ActionCommand.ofJson? action.toHttpPayload with _ | command
  · refine .inr ⟨?_, ?_⟩ <;> rw [RunSpace.executeAction, read]
    exact List.mem_cons_self
  · have same : d.run.executeAction [] action.toHttpPayload (clock d.run) (uuid d.run) =
        ((d.run.execute command (clock d.run) (uuid d.run)).1,
          (d.run.execute command (clock d.run) (uuid d.run)).2.toHttp) := by
      rw [RunSpace.executeAction, read]
    obtain ⟨type, -, sent, -⟩ := SimAction.command_of_payload read
    have own : RunSpace.effectiveKey command (uuid d.run) = key := by
      rw [RunSpace.effectiveKey, sent, effective]
    rw [same]
    rcases RunSpace.execute_new own (type ▸ new) with
      ⟨record, plain, performed, reply⟩ | ⟨unchanged, error⟩
    · refine .inl ⟨command, record, rfl, plain, rfl, performed, ?_⟩
      have keeps :
          ¬ (command.action = .refundOrder ∧ d.run.profile.losesRefundAcknowledgement) := by
        rw [faithful.flags.2.2.1]
        exact fun h => absurd h.2 (by decide)
      rw [reply, RunSpace.acknowledge, if_neg keeps]
      rfl
    · exact .inr ⟨by rw [unchanged], interpret_error error⟩

theorem posted_id : (d.posted clock uuid action).run.id = d.run.id := by
  rcases d.run.executeAction_cases [] action.toHttpPayload (clock d.run) (uuid d.run) with
    ⟨command, -, same⟩ | ⟨same, -⟩
  · rw [Deployment.posted, Deployment.response, same]
    exact RunSpace.execute_id _ _ _ _
  · rw [Deployment.posted, Deployment.response]
    exact congrArg RunSpace.id same

/-- A POST is never taken for one that timed out. -/
theorem result_ne_timeout (faithful : d.run.profile.Faithful)
    (keyed : action.idempotencyKey = some key)
    (new : d.run.existing action.actionType key = none) :
    (d.result clock uuid action).outcome ≠ .timeout := by
  have effective : action.idempotencyKey.getD ("inspect:" ++ uuid d.run) = key := by
    rw [keyed]
    rfl
  rcases posted_cases faithful effective new with ⟨_, _, -, -, -, -, same⟩ | ⟨-, failed⟩
  · rw [same]
    exact receiptOutcome_ne_timeout
  · intro timeout
    rw [timeout] at failed
    exact absurd failed (by decide)

/-- After a success the snapshots show it. -/
theorem postCheck_posted (injective : Function.Injective Python.sha256)
    (filled : ∀ text, Python.sha256 text ≠ "") (reachable : d.run.Reachable)
    (faithful : d.run.profile.Faithful) (write : action.actionType ≠ .inspectState)
    (keyed : action.idempotencyKey = some key)
    (new : d.run.existing action.actionType key = none)
    (succeeded : (d.result clock uuid action).succeeded) (runId : String)
    (first second third : Nat) :
    (RuntimeGate.postCheck (some ((d.posted clock uuid action).run.snapshot third)) runId
      (d.run.snapshot first) ((d.posted clock uuid action).run.snapshot second)).decision =
        .allow := by
  have effective : action.idempotencyKey.getD ("inspect:" ++ uuid d.run) = key := by
    rw [keyed]
    rfl
  rcases @posted_cases _ clock uuid d action key faithful effective new with
    ⟨command, record, read, -, executed, performed, same⟩ | ⟨-, failed⟩
  · obtain ⟨type, -, sent, -⟩ := SimAction.command_of_payload read
    rw [same, succeeded_fromReceipt] at succeeded
    have took : d.run.TookEffect command key (clock d.run) (uuid d.run) := by
      refine ⟨record, ?_, status_of_receipt succeeded⟩
      rw [← executed]
      exact RunSpace.existing_perform (type ▸ new) performed
    rw [RuntimeGate.postCheck_allow filled]
    intro unchanged
    rcases reachable.observed (type ▸ write) (sent.trans keyed) (type ▸ new) (clock d.run)
      (uuid d.run) with ⟨-, seen⟩ | ⟨without, -⟩
    · exact seen (executed ▸ RunSpace.unseen_of_hash injective unchanged.symm)
    · exact without took
  · have outcome := of_decide_eq_true succeeded
    rw [outcome] at failed
    exact absurd failed (by decide)

end Posted

/-! ## Calls -/

section Calls

variable [Python] [UnicodeTables] {clock : RunSpace → Nat} {uuid : RunSpace → String}
  {d : Deployment} {gateway : ToolGateway} {action : SimAction} {key : String}
  (upper : ∀ decision : GateDecisionType, UnicodeTables.upper decision.value = decision.value)
  (injective : Function.Injective Python.sha256) (filled : ∀ text, Python.sha256 text ≠ "")
  (bound : gateway.runId = d.run.id) (reachable : d.run.Reachable)
  (faithful : d.run.profile.Faithful) (keyed : action.idempotencyKey = some key)

include upper injective filled bound reachable faithful keyed in
/-- What the gate has let pass is posted, and comes to what the POST comes to. -/
theorem serving_perform (write : action.actionType ≠ .inspectState)
    (new : d.run.existing action.actionType key = none) (trace : GuardTrace) :
    ∃ trace', d.serving clock uuid (gateway.perform action key trace) =
      some (d.posted clock uuid action, .ok (d.result clock uuid action, trace')) := by
  have bound' : gateway.runId = (d.posted clock uuid action).run.id := bound.trans posted_id.symm
  have settled : gateway.settle action key (d.result clock uuid action) trace.counted =
      pure (d.result clock uuid action, trace.counted) :=
    if_neg (result_ne_timeout faithful keyed new)
  -- The two snapshots around the POST, and what follows it.
  have performs {finished : Option (Deployment × Except ToolException (ToolResult × GuardTrace))}
      (h : (d.posted clock uuid action).serving clock uuid (gateway.finish action key
        (d.run.snapshot (clock d.run)) (d.result clock uuid action) trace.counted) = finished) :
      d.serving clock uuid (gateway.perform action key trace) = finished := by
    refine (serve_bind (serving_snapshotOrNone bound)).trans ?_
    exact (serve_bind (serving_send bound)).trans h
  by_cases succeeded : (d.result clock uuid action).succeeded = true
  · refine ⟨trace.counted.counted.counted, performs ?_⟩
    rw [ToolGateway.finish, settled]
    refine (serve_bind serve_pure).trans ?_
    dsimp only
    rw [if_neg (not_not.2 succeeded)]
    refine (serve_bind (serving_snapshotOrNone bound')).trans ?_
    refine (serve_bind (serving_postCheck bound')).trans ?_
    have allowed := postCheck_posted injective filled reachable faithful write keyed new succeeded
      (d.posted clock uuid action).run.id (clock d.run) (clock (d.posted clock uuid action).run)
      (clock (d.posted clock uuid action).run)
    rw [readVerdict_toObject upper]
    dsimp only
    rw [allowed, if_neg (show ¬ GateDecisionType.allow.value ≠ "ALLOW" from not_not.2 rfl)]
    rfl
  · refine ⟨trace.counted, performs ?_⟩
    rw [ToolGateway.finish, settled]
    refine (serve_bind serve_pure).trans ?_
    dsimp only
    rw [if_pos succeeded]
    rfl

/-- The gate reads an amount that is not covered. -/
def Uncovered (run : RunSpace) (action : SimAction) : Prop :=
  ∃ read, RuntimeGate.money ((GateAction.ofSim action).argument "amount") = .ok read ∧
    ¬ RuntimeGate.Payable run action.targetId read

include upper bound reachable faithful in
/-- The gate lets a write pass that comes to what the POST comes to, or it stops it for good. -/
theorem serving_checkedDispatch (injective : Function.Injective Python.sha256)
    (filled : ∀ text, Python.sha256 text ≠ "") (keyed : action.idempotencyKey = some key)
    (refund : action.actionType = .refundOrder)
    (fits : RuntimeGate.AmountFits ((GateAction.ofSim action).argument "amount"))
    (new : d.run.existing action.actionType key = none) (trace : GuardTrace) :
    ∃ d₁ result trace', d.serving clock uuid (gateway.checkedDispatch action key trace) =
        some (d₁, .ok (result, trace')) ∧
      (d₁ = d.posted clock uuid action ∧ result = d.result clock uuid action ∨
        d₁ = d ∧ result.succeeded = false ∧ result.retryable = false ∧ Uncovered d.run action) := by
  obtain ⟨read, reads⟩ := RuntimeGate.money_ok_iff.2 fits
  obtain ⟨decision, decides, allows⟩ :=
    @RuntimeGate.preCheck_payable _ d.run (.ofSim action) (clock d.run) reachable faithful refund
      read reads
  let verdict : GuardVerdict :=
    { decision := decision.decision.value, reasonCode := decision.reasonCode.value }
  have asked : d.serving clock uuid (gateway.preCheck action) = some (d, .ok (some verdict)) := by
    rw [serving_preCheck bound rfl decides, readVerdict_toObject upper]
  cases refused : (refusal (some verdict) action trace.counted).1 with
  | none =>
    obtain ⟨trace', performed⟩ := @serving_perform _ _ clock uuid d gateway action key upper
      injective filled bound reachable faithful keyed (by rw [refund]; decide) new
      (refusal (some verdict) action trace.counted).2
    refine ⟨_, _, trace', (serve_bind asked).trans ?_, .inl ⟨rfl, rfl⟩⟩
    simp only [refused]
    exact performed
  | some result =>
    refine ⟨d, result, (refusal (some verdict) action trace.counted).2,
      (serve_bind asked).trans ?_, .inr ⟨rfl, refusal_eq_some refused,
        ToolGateway.refusal_not_retryable refused, read, reads, fun payable => ?_⟩⟩
    · simp only [refused]
      exact serve_pure
    · have allowed : verdict.decision = "ALLOW" :=
        congrArg GateDecisionType.value (allows.2 payable)
      rw [refusal, if_pos allowed] at refused
      cases refused

include upper injective filled bound reachable faithful keyed in
/-- A guarded write under a new key comes to what the POST comes to, or it is stopped for good. -/
theorem serving_guardedDispatch (refund : action.actionType = .refundOrder)
    (fits : RuntimeGate.AmountFits ((GateAction.ofSim action).argument "amount"))
    (unused : ∀ record ∈ d.run.epochReceipts, record.idempotencyKey ≠ key) :
    ∃ d₁ result trace', d.serving clock uuid (gateway.guardedDispatch action key {}) =
        some (d₁, .ok (result, trace')) ∧
      (d₁ = d.posted clock uuid action ∧ result = d.result clock uuid action ∨
        d₁ = d ∧ result.succeeded = false ∧ result.retryable = false ∧
          (¬ Plain key ∨ Uncovered d.run action)) := by
  have new : d.run.existing action.actionType key = none := by
    refine List.find?_eq_none.2 fun record mem same => unused record mem ?_
    exact (of_decide_eq_true same).2
  by_cases plain : Plain key
  · have missing : RuntimeGate.retryCheck key (d.run.showReceipt key).reply =
        .object {
          decision := some GateDecisionType.allow.value, reasonCode := some "RETRY_SAFE"
          detail := [("idempotency_key", .str key)] } := by
      rw [RunSpace.showReceipt_unused plain unused]
      rfl
    let verdict : GuardVerdict :=
      { decision := GateDecisionType.allow.value, reasonCode := "RETRY_SAFE" }
    have asked : d.serving clock uuid (gateway.retryCheck key) = some (d, .ok (some verdict)) := by
      rw [serving_retryCheck bound missing, readVerdict]
      simp only [upper]
      rfl
    obtain ⟨d₁, result, trace', dispatched, ends⟩ :=
      serving_checkedDispatch upper bound reachable faithful injective filled keyed refund fits new
        ((GuardTrace.counted {}).noting verdict)
    refine ⟨d₁, result, trace', (serve_bind asked).trans ?_, ends.imp_right fun stop =>
      ⟨stop.1, stop.2.1, stop.2.2.1, .inr stop.2.2.2⟩⟩
    dsimp only
    rw [if_neg (show ¬ GateDecisionType.allow.value ≠ "ALLOW" from not_not.2 rfl)]
    exact dispatched
  · have failed : RuntimeGate.retryCheck key (d.run.showReceipt key).reply =
        .object {
          decision := some GateDecisionType.unknown.value
          reasonCode := some "RECEIPT_LOOKUP_FAILED"
          detail := [("idempotency_key", .str key), ("status_code", .int 500)] } := by
      rw [RunSpace.showReceipt_unplain plain]
      rfl
    let verdict : GuardVerdict :=
      { decision := GateDecisionType.unknown.value, reasonCode := "RECEIPT_LOOKUP_FAILED" }
    have asked : d.serving clock uuid (gateway.retryCheck key) = some (d, .ok (some verdict)) := by
      rw [serving_retryCheck bound failed, readVerdict]
      simp only [upper]
      rfl
    let stopped := unknownResult action ((GuardTrace.counted {}).noting verdict) verdict.reasonCode
    refine ⟨d, stopped.1, stopped.2, (serve_bind asked).trans ?_, .inr ⟨rfl, rfl, rfl, .inl plain⟩⟩
    dsimp only
    rw [if_pos (show GateDecisionType.unknown.value ≠ "ALLOW" by decide)]
    rfl

end Calls

/-! ## Attempts -/

/-- The runs differ in receipts at most. -/
def RunSpace.SameRows (run run' : RunSpace) : Prop := { run with receipts := run'.receipts } = run'

namespace RunSpace.SameRows

variable {run run' run'' : RunSpace}

theorem rfl : SameRows run run := Eq.refl _

theorem trans (first : SameRows run run') (second : SameRows run' run'') : SameRows run run'' := by
  rw [SameRows] at first second ⊢
  rw [← second, ← first]

theorem orders (same : SameRows run run') : run'.orders = run.orders := by
  rw [← same]

end RunSpace.SameRows

namespace Ticket

variable [Python] (ticket : Ticket)

/-- The keys of the attempts from a number on are unused in a sandbox without defects. -/
structure Ready (n : Nat) (run : RunSpace) : Prop where
  reachable : run.Reachable
  faithful : run.profile.Faithful
  unused : ∀ record ∈ run.epochReceipts, ∀ m, n ≤ m → record.idempotencyKey ≠ ticket.refundKey m

variable {ticket} {clock : RunSpace → Nat} {uuid : RunSpace → String} {n : Nat} {d : Deployment}
  {action : SimAction}

/-- After a POST under the key of an attempt, or under no key of one. -/
theorem Ready.posted {m : Nat} (h : ticket.Ready n d.run) (later : n ≤ m)
    (others : ∀ k, m ≤ k →
      action.idempotencyKey.getD ("inspect:" ++ uuid d.run) ≠ ticket.refundKey k) :
    ticket.Ready m (d.posted clock uuid action).run := by
  rcases d.run.executeAction_cases [] action.toHttpPayload (clock d.run) (uuid d.run) with
    ⟨command, read, same⟩ | ⟨same, -⟩
  · have run : (d.posted clock uuid action).run =
        (d.run.execute command (clock d.run) (uuid d.run)).1 := by
      rw [Deployment.posted, Deployment.response, same]
    obtain ⟨-, -, sent, -⟩ := SimAction.command_of_payload read
    rw [run]
    refine ⟨h.reachable.apply (.execute command (uuid d.run) (clock d.run)), ?_, ?_⟩
    · have profile := (RunSpace.created_apply d.run
        (.execute command (uuid d.run) (clock d.run))).2.1
      exact (congrArg SandboxProfile.Faithful profile).mpr h.faithful
    · intro record mem k bound
      rcases d.run.epochReceipts_execute command (clock d.run) (uuid d.run) with
        kept | ⟨added, kept, -, key⟩
      · exact h.unused record (kept ▸ mem) k (by omega)
      · rw [kept] at mem
        rcases List.mem_append.1 mem with mem | mem
        · exact h.unused record mem k (by omega)
        · obtain rfl := List.mem_singleton.1 mem
          rw [key, RunSpace.effectiveKey, sent]
          exact others k bound
  · have run : (d.posted clock uuid action).run = d.run := by
      rw [Deployment.posted, Deployment.response]
      exact same
    rw [run]
    exact ⟨h.reachable, h.faithful, fun record mem k from_ => h.unused record mem k (by omega)⟩

/-- The action of an attempt. -/
theorem Ready.attempted (h : ticket.Ready n d.run) :
    ticket.Ready (n + 1) (d.posted clock uuid (keyedAction ticket action n)).run := by
  refine h.posted (Nat.le_succ n) fun k later same => ?_
  have := ticket.refundKey_injective same
  omega

theorem Ready.new (h : ticket.Ready n d.run) (name : ActionName) :
    d.run.existing name (ticket.refundKey n) = none := by
  refine List.find?_eq_none.2 fun record mem same => h.unused record mem n le_rfl ?_
  exact (of_decide_eq_true same).2

/-- No refund under the keys of a ticket can be made. -/
def Hopeless (ticket : Ticket) (action : SimAction) (run : RunSpace) : Prop :=
  (∀ n, ¬ Plain (ticket.refundKey n)) ∨ Uncovered run action

omit [Python] in
theorem plain_refundKey {m : Nat} : Plain (ticket.refundKey m) ↔ Plain ticket.ticketId := by
  have digits : Char.ofNat 0 ∉ (toString m).toList := by
    have plain := @plain_rowId "" (by decide) m
    rw [Plain, rowId, String.toList_append] at plain
    exact fun mem => plain (List.mem_append_right _ mem)
  have marker : Char.ofNat 0 ∉ ":refund:".toList := by decide
  simp only [Plain, refundKey, String.toList_append, List.mem_append, not_or]
  exact ⟨fun h => h.1.1, fun h => ⟨⟨h, marker⟩, digits⟩⟩

omit [Python] in
/-- If no query takes a key then none takes any key of the ticket. -/
theorem unplain_all (unplain : ¬ Plain (ticket.refundKey n)) (m : Nat) :
    ¬ Plain (ticket.refundKey m) :=
  fun plain => unplain (plain_refundKey.2 (plain_refundKey.1 plain))

omit [Python] in
theorem Hopeless.sameRows {run run' : RunSpace} (h : Hopeless ticket action run)
    (same : run.SameRows run') : Hopeless ticket action run' := by
  refine h.imp_right ?_
  rintro ⟨read, reads, uncovered⟩
  refine ⟨read, reads, fun payable => uncovered ?_⟩
  rwa [RuntimeGate.Payable, same.orders] at payable

/-- The attempt of a refund that cannot be made does not succeed, and changes no row. -/
theorem Hopeless.attempt {text : String} (h : Hopeless ticket action d.run)
    (ready : ticket.Ready n d.run) (refund : action.actionType = .refundOrder)
    (only : action.arguments = [("amount", .str text)]) :
    (d.result clock uuid (keyedAction ticket action n)).succeeded = false ∧
      d.run.SameRows (d.posted clock uuid (keyedAction ticket action n)).run := by
  rcases @posted_cases _ clock uuid d (keyedAction ticket action n) _ ready.faithful rfl
    (ready.new _) with ⟨command, record, read, plain, -, performed, same⟩ | ⟨unchanged, failed⟩
  · obtain ⟨read', reads, uncovered⟩ := h.resolve_left fun unplain => unplain n plain
    obtain ⟨type, target, -, arguments⟩ := SimAction.command_of_payload read
    have sends : RuntimeGate.Sends command (.ofSim action) := by
      refine ⟨type, target, arguments.trans ?_⟩
      rw [GateAction.ofSim, keyedAction, only]
      rfl
    have sent : (GateAction.ofSim action).arguments = [("amount", .str text)] := by
      rw [GateAction.ofSim, only]
      rfl
    have argument : (GateAction.ofSim action).argument "amount" = .str text :=
      (RuntimeGate.argument_of_only sends sent).2.1
    rw [argument] at reads
    obtain ⟨rejected, run⟩ := RunSpace.rejected_of_perform (fun result made => uncovered
      (RuntimeGate.payable_of_ok ready.faithful sends refund sent reads made)) performed
    refine ⟨?_, ?_⟩
    · rw [same, ← Bool.not_eq_true, succeeded_fromReceipt]
      intro succeeded
      have := (status_of_receipt succeeded : record.status = .succeeded)
      rw [rejected] at this
      cases this
    · rw [run]
      rfl
  · rw [unchanged]
    refine ⟨?_, .rfl⟩
    rcases List.mem_cons.1 failed with outcome | outcome
    · rw [ToolResult.succeeded, outcome]
      rfl
    · rw [ToolResult.succeeded, List.mem_singleton.1 outcome]
      rfl

end Ticket

namespace RefundAgent

section Attempts

variable [Python] [UnicodeTables] {clock : RunSpace → Nat} {uuid : RunSpace → String}
  {d d₁ : Deployment} {ticket : Ticket} {action : SimAction} {text : String} {n : Nat}

omit [Python] [UnicodeTables] in
theorem keyed_attempt (n : Nat) : ¬ (ToolGateway.writes (keyedAction ticket action n) ∧
    (keyedAction ticket action n).idempotencyKey.getD "" = "") := by
  rintro ⟨-, empty⟩
  have lengths : (ticket.ticketId ++ ":refund:" ++ toString n).length = "".length :=
    congrArg String.length empty
  rw [String.length_append, String.length_append] at lengths
  have marker : ":refund:".length = 8 := by decide
  have none : "".length = 0 := rfl
  omega

/-- Without a guard the attempts at a refund that cannot be made end with an escalation. -/
theorem tryAttempts_hopeless {agent : RefundAgent} (bare : agent.gateway.guarded = false)
    (bound : agent.gateway.runId = d.run.id) (refund : action.actionType = .refundOrder)
    (only : action.arguments = [("amount", .str text)]) (attempts : Nat)
    (ready : ticket.Ready n d.run) (hopeless : ticket.Hopeless action d.run)
    (steps : List AgentStep) (calls : List ToolCallRecord) :
    ∃ b report calls', d.serving clock uuid
        (agent.tryAttempts ticket action (List.range' n attempts) steps calls) =
          some (b, .ok (report, calls')) ∧
      report.outcome = .escalated ∧ report.claimedComplete = false ∧ d.run.SameRows b.run := by
  induction attempts generalizing n d steps calls with
  | zero => exact ⟨d, _, calls, serve_pure, rfl, rfl, .rfl⟩
  | succ attempts ih =>
    obtain ⟨failed, same⟩ := @Ticket.Hopeless.attempt _ ticket clock uuid n d action text hopeless
      ready refund only
    obtain ⟨calls', called⟩ := @serving_bare _ _ clock uuid d agent.gateway
      (keyedAction ticket action n) calls bound (.inl (by rw [bare]; decide)) (keyed_attempt n)
    obtain ⟨steps', attempt⟩ := serving_attempt called (List.range' (n + 1) attempts) steps
    rw [failed, if_neg Bool.false_ne_true] at attempt
    rw [List.range'_succ, attempt]
    split_ifs
    · obtain ⟨b, report, calls'', served, outcome, claims, rows⟩ := ih (bound.trans posted_id.symm)
        ready.attempted (hopeless.sameRows same) steps' calls'
      exact ⟨b, report, calls'', served, outcome, claims, same.trans rows⟩
    · exact ⟨_, _, calls', rfl, rfl, rfl, same⟩

/-- With the gate the attempts end as without it. -/
theorem tryAttempts_transparent
    (upper : ∀ decision : GateDecisionType, UnicodeTables.upper decision.value = decision.value)
    (injective : Function.Injective Python.sha256) (filled : ∀ text, Python.sha256 text ≠ "")
    {gated bare : RefundAgent} (guarded : gated.gateway.guarded = true)
    (unguarded : bare.gateway.guarded = false) (bound : gated.gateway.runId = d.run.id)
    (bound' : bare.gateway.runId = d.run.id) (refund : action.actionType = .refundOrder)
    (only : action.arguments = [("amount", .str text)]) (fits : RuntimeGate.AmountFits (.str text))
    (attempts : Nat) (ready : ticket.Ready n d.run) (steps steps' : List AgentStep)
    (calls calls' : List ToolCallRecord) :
    ∃ g report gatedCalls b report' bareCalls,
      d.serving clock uuid
        (gated.tryAttempts ticket action (List.range' n attempts) steps calls) =
          some (g, .ok (report, gatedCalls)) ∧
      d.serving clock uuid
        (bare.tryAttempts ticket action (List.range' n attempts) steps' calls') =
          some (b, .ok (report', bareCalls)) ∧
      report.outcome = report'.outcome ∧ report.claimedComplete = report'.claimedComplete ∧
      g.run.SameRows b.run := by
  induction attempts generalizing n d steps steps' calls calls' with
  | zero => exact ⟨d, _, calls, d, _, calls', serve_pure, serve_pure, rfl, rfl, .rfl⟩
  | succ attempts ih =>
    have write : ToolGateway.writes (keyedAction ticket action n) = true := by
      rw [ToolGateway.writes, keyedAction, refund]
      decide
    have argument : (GateAction.ofSim (keyedAction ticket action n)).argument "amount" =
        .str text := by
      rw [GateAction.ofSim, keyedAction, only]
      rfl
    obtain ⟨d₁, result, trace, dispatched, ends⟩ :=
      @serving_guardedDispatch _ _ clock uuid d gated.gateway (keyedAction ticket action n)
        (ticket.refundKey n) upper injective filled bound ready.reachable ready.faithful rfl refund
        (argument ▸ fits) fun record mem => ready.unused record mem n le_rfl
    have keyed : (keyedAction ticket action n).idempotencyKey = some (ticket.refundKey n) := rfl
    rw [← ToolGateway.dispatch_guarded guarded write keyed] at dispatched
    obtain ⟨gatedCalls, called⟩ := @serving_call _ _ clock uuid d d₁ gated.gateway _ _ _ calls
      (keyed_attempt n) dispatched
    obtain ⟨steps₁, attempt⟩ := serving_attempt called (List.range' (n + 1) attempts) steps
    rw [List.range'_succ, attempt]
    rcases ends with ⟨rfl, rfl⟩ | ⟨rfl, failed, final, stops⟩
    · -- The same POST.
      obtain ⟨bareCalls, called'⟩ := @serving_bare _ _ clock uuid d bare.gateway
        (keyedAction ticket action n) calls' bound' (.inl (by rw [unguarded]; decide))
        (keyed_attempt n)
      obtain ⟨steps₂, attempt'⟩ := serving_attempt called' (List.range' (n + 1) attempts) steps'
      rw [attempt']
      split_ifs
      · exact ⟨_, _, gatedCalls, _, _, bareCalls, rfl, rfl, rfl, rfl, .rfl⟩
      · exact ih (bound.trans posted_id.symm) (bound'.trans posted_id.symm) ready.attempted steps₁
          steps₂ gatedCalls bareCalls
      · exact ⟨_, _, gatedCalls, _, _, bareCalls, rfl, rfl, rfl, rfl, .rfl⟩
    · -- The gate stops, and the sandbox would never make the refund.
      have hopeless : ticket.Hopeless action d₁.run :=
        stops.imp_left fun unplain => Ticket.unplain_all unplain
      obtain ⟨b, report, bareCalls, served, outcome, claims, rows⟩ :=
        @tryAttempts_hopeless _ _ clock uuid d₁ ticket action text n bare unguarded bound' refund
          only (attempts + 1) ready hopeless steps' calls'
      rw [failed, final, if_neg Bool.false_ne_true, if_neg Bool.false_ne_true]
      rw [List.range'_succ] at served
      exact ⟨d₁, _, gatedCalls, b, report, bareCalls, rfl, served, outcome.symm, claims.symm, rows⟩

end Attempts

section Handling

variable [Python] [UnicodeTables] {clock : RunSpace → Nat} {uuid : RunSpace → String}
  {d : Deployment} {ticket : Ticket}

omit [Python] [UnicodeTables] in
theorem mem_of_lookup {α : Type} {entries : List (String × α)} {key : String} {value : α}
    (found : entries.lookup key = some value) : (key, value) ∈ entries := by
  obtain ⟨_, _, rfl, -⟩ := List.lookup_eq_some_iff.1 found
  exact List.mem_append_right _ List.mem_cons_self

omit [UnicodeTables] in
/-- The orders of a snapshot that the agent reads are those of the run. -/
theorem ordersById_snapshot {run : RunSpace} {now : Nat} {orders : List (String × Json)}
    (read : ordersById (run.snapshot now) = some orders) {orderId : String} {order : Json}
    (found : orders.lookup orderId = some order) : ∃ row ∈ run.orders, order = row.toJson := by
  have state : ((run.snapshot now).get "state").get "orders" =
      .arr ((orderById Order.id run.orders).map Order.toJson) := rfl
  unfold ordersById at read
  rw [state] at read
  dsimp only at read
  split_ifs at read
  obtain rfl := Option.some.inj read
  obtain ⟨json, listed, same⟩ := List.mem_filterMap.1 (List.mem_reverse.1 (mem_of_lookup found))
  obtain ⟨row, mem, rfl⟩ := List.mem_map.1 listed
  exact ⟨row, mem_orderById.1 mem, (Prod.mk.inj (Option.some.inj same)).2.symm⟩

omit [Python] [UnicodeTables] in
/-- The amounts of rows fit. -/
theorem fits_amountText {amount : Int} (nonneg : 0 ≤ amount) (paid : Numeric amount) :
    RuntimeGate.AmountFits (.str (amountText amount)) := by
  have small : amount.natAbs < 10 ^ 16 := by
    have := paid.2
    omega
  have digits : numDigits amount.natAbs ≤ 16 := (numDigits_le_iff (by omega)).2 small
  have read : RuntimeGate.numeral (RuntimeGate.rawAmount (.str (amountText amount))) =
      some (.finite (decide (amount < 0)) amount.natAbs (-2)) :=
    @PyDecimal.parse_text (Amount.ofInt amount) (digits.trans (by norm_num))
  intro decimal mem
  rw [read] at mem
  obtain rfl := Option.some.inj mem
  refine .inr ⟨by omega, ?_⟩
  have kept : PyDecimal.roundHalfUp amount.natAbs (-2) = amount.natAbs := by
    rw [PyDecimal.roundHalfUp, if_pos le_rfl]
    simp
  rw [kept]
  omega

omit [UnicodeTables] in
/-- The snapshot that the agent reads is that of the run. -/
theorem inspectedSnapshot_result (faithful : d.run.profile.Faithful)
    (fresh : d.run.existing .inspectState ("inspect:" ++ uuid d.run) = none) {snapshot : Json}
    (read : inspectedSnapshot (d.result clock uuid inspection) = some snapshot) :
    snapshot = d.run.snapshot (clock d.run) := by
  have succeeded : (d.result clock uuid inspection).succeeded = true := by
    unfold inspectedSnapshot at read
    split_ifs at read with succeeded
    exact succeeded
  rcases @posted_cases _ clock uuid d inspection _ faithful rfl fresh with
    ⟨command, record, sent, -, -, performed, same⟩ | ⟨-, failed⟩
  swap
  · have outcome := of_decide_eq_true succeeded
    rw [outcome] at failed
    exact absurd failed (by decide)
  have status : record.status = .succeeded := by
    rw [same, succeeded_fromReceipt] at succeeded
    exact status_of_receipt succeeded
  obtain ⟨type, -⟩ := SimAction.command_of_payload sent
  rcases RunSpace.perform_ok performed with
    ⟨-, ⟨r, outcome, dispatched, recorded, -⟩ | ⟨error, -, recorded, -⟩⟩
  swap
  · rw [recorded] at status
    cases status
  have handled := (RunSpace.dispatch_ok dispatched).1
  rw [RunSpace.handler, type] at handled
  have made : outcome.result.lookup "snapshot" = some (d.run.snapshot (clock d.run)) := by
    simp only [inspection, SimAction.build] at handled
    simp only [RunSpace.inspectState, Checked.bind_eq_ok, Checked.pure_eq_ok,
      Prod.mk.injEq] at handled
    obtain ⟨-, -, scope, -, -, rfl⟩ := handled
    rfl
  have receipt : (d.result clock uuid inspection).receipt =
      some (record.toReceipt d.run.id).toJson := by
    rw [same] at succeeded ⊢
    exact if_pos (of_decide_eq_true succeeded)
  have shown : ((record.toReceipt d.run.id).toJson.get "result").get "snapshot" =
      d.run.snapshot (clock d.run) := by
    rw [recorded]
    change (Json.obj outcome.result).get "snapshot" = _
    rw [Json.get, Json.get?, made]
    rfl
  rw [inspectedSnapshot, if_pos succeeded, receipt] at read
  dsimp only at read
  rw [shown] at read
  split_ifs at read
  exact (Option.some.inj read).symm

/-- The amount that is decided on fits, if the one that the ticket states does. -/
theorem fits_decided {run : RunSpace} {now : Nat} (reachable : run.Reachable)
    (fits : ∀ request ∈ parseRefundRequest ticket.text, ∀ text ∈ request.amount,
      RuntimeGate.AmountFits (.str text)) {action : AgentAction}
    (decided : decideTicket ticket (run.snapshot now) = .ok (.action action)) :
    ∃ text, action.arguments = [("amount", .str text)] ∧ RuntimeGate.AmountFits (.str text) := by
  obtain ⟨request, orders, order, parsed, read, found, -, only⟩ := decideTicket_action decided
  refine ⟨_, only, ?_⟩
  cases amount : request.amount with
  | some text => exact fits request parsed text amount
  | none =>
    obtain ⟨row, mem, rfl⟩ := ordersById_snapshot read found
    exact fits_amountText (reachable.orders_wellFormed row mem).nonneg.1
      (reachable.storable.orders row mem).2.2.1

/-- The report as far as it tells what has been done. -/
def claim (outcome : Except ToolException (AgentReport × List ToolCallRecord)) :
    Except ToolException (AgentOutcome × Bool) :=
  outcome.map fun report => (report.1.outcome, report.1.claimedComplete)

/-- In a sandbox without defects, when nothing is lost and nobody else writes, an agent behind the
    gate ends as one without it: with the same outcome and the same claim of completion, or the same
    exception, and with runs that differ in receipts at most. This is so for every ticket whose keys
    are new and whose amount, if it states one, takes at most 28 digits at two places. -/
theorem handle_transparent
    (upper : ∀ decision : GateDecisionType, UnicodeTables.upper decision.value = decision.value)
    (injective : Function.Injective Python.sha256) (filled : ∀ text, Python.sha256 text ≠ "")
    {gated bare : RefundAgent} (guarded : gated.gateway.guarded = true)
    (unguarded : bare.gateway.guarded = false) (attempts : gated.maxAttempts = bare.maxAttempts)
    (bound : gated.gateway.runId = d.run.id) (bound' : bare.gateway.runId = d.run.id)
    (reachable : d.run.Reachable) (faithful : d.run.profile.Faithful) (named : ticket.Named)
    (unused : ∀ record ∈ d.run.epochReceipts, ∀ n, record.idempotencyKey ≠ ticket.refundKey n)
    (fresh : d.run.existing .inspectState ("inspect:" ++ uuid d.run) = none)
    (fits : ∀ request ∈ parseRefundRequest ticket.text, ∀ text ∈ request.amount,
      RuntimeGate.AmountFits (.str text)) (calls calls' : List ToolCallRecord) :
    ∃ g outcome b outcome',
      d.serving clock uuid (gated.handle ticket calls) = some (g, outcome) ∧
      d.serving clock uuid (bare.handle ticket calls') = some (b, outcome') ∧
      claim outcome = claim outcome' ∧ g.run.SameRows b.run := by
  obtain ⟨step, gatedCalls, state⟩ :=
    @serving_readState _ _ clock uuid d gated bound calls
  obtain ⟨step', bareCalls, state'⟩ :=
    @serving_readState _ _ clock uuid d bare bound' calls'
  have start : ticket.Ready 1 d.run :=
    ⟨reachable, faithful, fun record mem m _ => unused record mem m⟩
  have ready : ticket.Ready 1 (d.posted clock uuid inspection).run :=
    start.posted le_rfl fun k _ => named.apart (uuid d.run) k
  cases read : inspectedSnapshot (d.result clock uuid inspection) with
  | none =>
    rw [read] at state state'
    exact ⟨_, _, _, _, (serve_bind state).trans rfl, (serve_bind state').trans rfl, rfl, .rfl⟩
  | some snapshot =>
    obtain rfl := inspectedSnapshot_result faithful fresh read
    rw [read] at state state'
    have carried {agent : RefundAgent} {step : AgentStep} {calls calls' : List ToolCallRecord}
        (state : d.serving clock uuid (agent.readState calls) =
          some (d.posted clock uuid inspection,
            .ok ((some (d.run.snapshot (clock d.run)), step), calls'))) :
        d.serving clock uuid (agent.handle ticket calls) =
          (d.posted clock uuid inspection).serving clock uuid (agent.carryOut ticket [step] calls'
            (decideTicket ticket (d.run.snapshot (clock d.run)))) := serve_bind state
    rw [carried state, carried state']
    cases decided : decideTicket ticket (d.run.snapshot (clock d.run)) with
    | error e => exact ⟨_, _, _, _, rfl, rfl, rfl, .rfl⟩
    | ok decision =>
      cases decision with
      | escalate reason => exact ⟨_, _, _, _, rfl, rfl, rfl, .rfl⟩
      | action action =>
        obtain ⟨text, only, fit⟩ := fits_decided reachable fits decided
        have only : action.toSimAction.arguments = [("amount", .str text)] := by
          rw [AgentAction.toSimAction, only]
          rfl
        obtain ⟨g, report, gatedCalls', b, report', bareCalls', served, served', ends, claims,
            rows⟩ :=
          @tryAttempts_transparent _ _ clock uuid _ ticket action.toSimAction text 1 upper injective
            filled gated bare guarded unguarded (bound.trans posted_id.symm)
            (bound'.trans posted_id.symm) (refund_of_decideTicket decided) only fit
            gated.maxAttempts ready [step] [step'] gatedCalls bareCalls
        rw [attempts] at served'
        refine ⟨g, _, b, _, served, served', ?_, rows⟩
        exact congrArg Except.ok (Prod.ext ends claims)

end Handling

end RefundAgent

/-- A run after the order has been paid for. -/
def paidRun : RunSpace :=
  letI := Python.transparent
  (createRun { scenarioType := .promotion } "run").after paidHistory

/-- Both agents refund 10.00 of the order. -/
theorem RefundAgent.handle_transparent_paid :
    let _ := Python.transparent
    let _ := UnicodeTables.ascii
    ∃ g outcome b outcome',
      Deployment.serving (fun _ => 4) (fun _ => "uuid") ⟨paidRun, []⟩
        (guardedAgent.handle refundTicket []) = some (g, outcome) ∧
      Deployment.serving (fun _ => 4) (fun _ => "uuid") ⟨paidRun, []⟩
        (RefundAgent.handle ⟨⟨"run", false⟩, 2, by decide⟩ refundTicket []) = some (b, outcome') ∧
      claim outcome = claim outcome' ∧ g.run.SameRows b.run := by
  intro _ _
  have upper (decision : GateDecisionType) :
      UnicodeTables.upper decision.value = decision.value := by
    cases decision <;> decide +kernel
  have injective : Function.Injective Python.sha256 := fun _ _ same =>
    (String.append_right_inj _).1 same
  have filled (text : String) : Python.sha256 text ≠ "" := by
    intro empty
    have length := congrArg String.length (show "sha256:" ++ text = "" from empty)
    rw [String.length_append] at length
    exact absurd (Nat.eq_zero_of_add_eq_zero_right length) (by decide)
  have keys : ∀ record ∈ paidRun.epochReceipts,
      ¬ (":".toList <:+: record.idempotencyKey.toList) := by
    decide +kernel
  have unused : ∀ record ∈ paidRun.epochReceipts, ∀ n,
      record.idempotencyKey ≠ refundTicket.refundKey n := by
    intro record mem n under
    refine keys record mem ⟨"ticket-1".toList, "refund:".toList ++ (toString n).toList, ?_⟩
    rw [under, Ticket.refundKey, refundTicket, String.toList_append, String.toList_append]
    rfl
  have reachable : paidRun.Reachable :=
    RunSpace.Reachable.after ⟨{ scenarioType := .promotion }, "run", [], rfl⟩ paidHistory
  have named : refundTicket.Named := by
    rw [Ticket.Named]
    decide +kernel
  have parsed : parseRefundRequest refundTicket.text = some ⟨"order-1", some "10.00"⟩ := by
    decide +kernel
  have fits : ∀ request ∈ parseRefundRequest refundTicket.text, ∀ text ∈ request.amount,
      RuntimeGate.AmountFits (.str text) := by
    intro request mem text amount
    obtain rfl := Option.some.inj (parsed.symm.trans mem)
    obtain rfl := Option.some.inj amount
    exact RuntimeGate.money_ok_iff.1 ⟨_, rfl⟩
  have bound : "run" = paidRun.id := by decide +kernel
  have faithful : paidRun.profile.Faithful := by
    rw [SandboxProfile.Faithful]
    decide +kernel
  have fresh : paidRun.existing .inspectState ("inspect:" ++ "uuid") = none := by decide +kernel
  exact @RefundAgent.handle_transparent _ _ (fun _ => 4) (fun _ => "uuid") ⟨paidRun, []⟩
    refundTicket upper injective filled guardedAgent ⟨⟨"run", false⟩, 2, by decide⟩ rfl rfl rfl
    bound bound reachable faithful named unused fresh fits [] []

end RuleArena
